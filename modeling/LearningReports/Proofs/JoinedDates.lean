import LearningReports.Directory.Records
import LearningReports.Proofs.DateOptions
import LearningReports.Proofs.Gathered
import LearningReports.Proofs.JoinedRows
import LearningReports.Proofs.ResultColumns

/-! # Dates across joined rows

A report of users and courses asks for the dates of an enrollment in the inner query over
enrollments, and for the end of its course in the one over courses. Within each query the date
options combine as the report says, but a joined row needs both queries. So a report that asks for
at least one condition loses the rows that fulfil options on one side only. -/
namespace LearningReports

open MonadAttach (CanReturn)
open DateFilter (Dated)
open Sql (Branch Expr Fragment Scope Source)
open Text (Occurs)

/-! ## What options say of a row -/

namespace Sql.Reading

variable {R : Sql.Reading}

variable (R) in
/-- A row of a table keeps the condition that a date option makes of a column. -/
def Fulfils (t : Table) (row : R.Row) (p : Expr × DateOption) : Prop :=
  ∃ e, DateFilter.condition? p.1 (some p.2) = some e ∧ R.holds [(t.name, some row)] e

variable (R) in
/-- What the effective ones of several options say of a row, each by itself. -/
def verdicts (t : Table) (row : R.Row) (pairs : List Dated) : List Prop :=
  (DateFilter.effective pairs).map (R.Fulfils t row)

variable {t : Table} {row : R.Row}

theorem fulfils_iff_holds {c : Calendar} {column : Expr} {time : Option ℚ} {o : DateOption}
    (hreads : DateOption.Reads c column time (R.holds [(t.name, some row)]))
    (ho : o.Effective) (hdays : o.HasDays) :
    R.Fulfils t row (column, o) ↔ o.Holds c time := by
  obtain ⟨e, he⟩ := Option.isSome_iff_exists.mp
    ((DateOption.condition?_isSome_iff column).mpr ho)
  rw [Fulfils, ← ho.condition_iff hdays hreads he]
  simp [he]

variable (R) in
/-- Conditions on a single row are read as comparisons of the points in time in its columns. -/
def ReadsDates (c : Calendar) (time : R.Row → Expr → Option ℚ) : Prop :=
  ∀ (t : Table) (row : R.Row) (column : String),
    DateOption.Reads c (.name column) (time row (.name column)) (R.holds [(t.name, some row)])

theorem Logical.combine_iff (h : R.Logical) (how : DateConditions) (name : String)
    (es : List Expr) :
    (∀ a ∈ (DateFilter.combine how es).toList, R.holds [(name, some row)] a) ↔
      how.Among (R.holds [(name, some row)]) es := by
  cases es with
  | nil => cases how <;> simp [DateFilter.combine, DateConditions.Among]
  | cons e es =>
    have hlist : (DateFilter.combine how (e :: es)).toList =
        [.paren (.joined how.operator (.paren e) (es.map .paren))] := rfl
    rw [hlist, List.forall_mem_singleton]
    cases how with
    | all => exact h.all
    | atLeastOne => exact h.any.trans ⟨fun hany _ => hany, fun hany => hany (List.cons_ne_nil e es)⟩

theorem Logical.combined_iff (h : R.Logical) (how : DateConditions) (pairs : List Dated) :
    (∀ e ∈ DateFilter.combined how pairs, R.holds [(t.name, some row)] e) ↔
      how.Among id (R.verdicts t row pairs) := by
  have hverdicts : List.Forall₂ (fun e v => R.holds [(t.name, some row)] e ↔ id v)
      (DateFilter.conditions pairs) (R.verdicts t row pairs) := by
    rw [verdicts, List.forall₂_map_right_iff]
    refine (DateFilter.forall₂_conditions pairs).imp fun e p he => ?_
    simp [Fulfils, he]
  exact (h.combine_iff how t.name _).trans (DateFilter.among_congr hverdicts)

end Sql.Reading

/-! ## Reports without date options -/

/-- The report without options on enrollments and courses. -/
def Definition.undated (d : Definition) : Definition :=
  { d with enrollmentDate := none, completionDate := none, courseExpirationDate := none }

def Context.undated (ctx : Context) : Context := { ctx with definition := ctx.definition.undated }

namespace UsersCourses

def enrollmentOptions (d : Definition) : List Dated :=
  [(.name "date_inscr", d.enrollmentDate), (.name "date_complete", d.completionDate)]

def courseOptions (d : Definition) : List Dated := [(.name "date_end", d.courseExpirationDate)]

def courseDates (ctx : Context) : List Expr := ctx.dates (courseOptions ctx.definition)

/-- The sources of the live branch, with further conditions on enrollments and courses. -/
def liveSources (ctx : Context) (enrollments courses : List Expr) : List Source := [
  .first (.inner (.rows Table.enrollment.name (Restrictions.enrollments ctx ++ enrollments)))
    Table.enrollment.handle,
  .joinRows (.rows Table.user.name (Restrictions.users ctx)) Table.user.handle
    (.eq (Table.user.col "idst") (Table.enrollment.col "idUser")),
  .joinRows (.rows Table.course.name (Restrictions.courses ctx.undated ++ courses))
    Table.course.handle (.eq (Table.course.col "idCourse") (Table.enrollment.col "idCourse"))]

def liveRest (ctx : Context) : List Fragment :=
  restrictAll (Restrictions.noVisitors
    :: EnrollmentColumns.statusFilter ctx.definition.enrollment (Table.enrollment.col "status")
      (EnrollmentColumns.liveMark (Table.enrollment.col "waiting")
        (Table.course.col "course_type")))
  ++ (Layout.columns ctx).flatMap (·.2.parts .live) ++ Layout.selection ctx (·.on .live)

section Undated

variable {ctx : Context}

theorem courses_eq (ctx : Context) :
    Restrictions.courses ctx = Restrictions.courses ctx.undated ++ courseDates ctx := by
  have hnone : courseDates ctx.undated = [] := rfl
  change _ = (_ ++ _ ++ courseDates ctx.undated) ++ _
  rw [hnone, List.append_nil]
  rfl

theorem branch_live_eq (h : ctx.type = .usersCourses) : Layout.branch ctx .live =
    (Branch.ofFragments (liveRest ctx)).behind
      (liveSources ctx (Restrictions.enrollmentDates ctx) (courseDates ctx)) := by
  have hstart : Branch.empty.addAll (Restrictions.sources ctx
      (Restrictions.enrollments ctx ++ Restrictions.enrollmentDates ctx)
      (Restrictions.courses ctx)) = Branch.empty.behind
        (liveSources ctx (Restrictions.enrollmentDates ctx) (courseDates ctx)) := by
    rw [liveSources, ← courses_eq]
    rfl
  rw [Layout.branch_eq, h]
  change Branch.empty.addAll ((live ctx ++ _) ++ _) = _
  rw [live, List.append_assoc, List.append_assoc, ← List.append_assoc (restrictAll _),
    Branch.addAll_append, hstart, Branch.addAll_behind]
  rfl

/-! The columns of the live branch and its own restrictions do not look at the date options. -/

theorem standard_undated {f : Field} {build : Builder}
    (h : ReportType.usersCourses.column? f = some build) : build ctx.undated = build ctx :=
  ReportType.eq_of_map_builders (v := fun b => b ctx.undated) (w := fun b => b ctx) h rfl

theorem fate_undated (h : ctx.type = .usersCourses) (text : String) :
    Layout.fate ctx.undated text = Layout.fate ctx text := by
  refine Layout.fate_congr rfl rfl rfl (fun r => ?_) fun hcolumn => ?_
  · rw [h]
    rfl
  · rw [h] at hcolumn
    exact standard_undated hcolumn

theorem liveRest_undated (h : ctx.type = .usersCourses) : liveRest ctx.undated = liveRest ctx := by
  have hcolumns : Layout.columns ctx.undated = Layout.columns ctx := by
    have hfates : Layout.fates ctx.undated = Layout.fates ctx :=
      List.map_congr_left fun text _ => congrArg (Prod.mk text) (fate_undated h text)
    rw [Layout.columns, Layout.columns, hfates]
  unfold liveRest Layout.selection
  rw [hcolumns]
  rfl

/-! ## Joined rows -/

section Rows

variable {R : Sql.Reading} {dates ends : List Expr} {scope : Scope R.Row}
  {enrollment user course : R.Row}

/-- An enrollment with its user and its course. -/
def liveScope (enrollment user course : R.Row) : Scope R.Row := [
  (Table.enrollment.handle, some enrollment),
  (Table.user.handle, some user),
  (Table.course.handle, some course)]

/-- The rows are joined by the sources of the live branch. -/
structure Joined (ctx : Context) (dates ends : List Expr) (enrollment user course : R.Row) :
    Prop where
  hasEnrollment : R.answers (.rows Table.enrollment.name (Restrictions.enrollments ctx ++ dates))
    enrollment
  hasUser : R.answers (.rows Table.user.name (Restrictions.users ctx)) user
  hasCourse : R.answers (.rows Table.course.name (Restrictions.courses ctx.undated ++ ends)) course
  onUser : R.holds ((liveScope enrollment user course).take 2)
    (.eq (Table.user.col "idst") (Table.enrollment.col "idUser"))
  onCourse : R.holds (liveScope enrollment user course)
    (.eq (Table.course.col "idCourse") (Table.enrollment.col "idCourse"))

theorem combines_liveSources_iff {more : List Source} :
    R.Combines [] (liveSources ctx dates ends ++ more) scope ↔
      ∃ enrollment user course, Joined ctx dates ends enrollment user course ∧
        R.Combines (liveScope enrollment user course) more scope := by
  simp only [liveSources, List.cons_append, Sql.Source.joinRows, Sql.Reading.combines_cons_iff,
    Sql.Reading.extends_first_iff, Sql.Reading.extends_joined_iff]
  constructor
  · rintro ⟨_, ⟨enrollment, henrollment, rfl⟩, _, ⟨user, huser, hon, rfl⟩, _,
      ⟨course, hcourse, hon', rfl⟩, hmore⟩
    exact ⟨enrollment, user, course, ⟨henrollment, huser, hcourse, hon, hon'⟩, hmore⟩
  · rintro ⟨enrollment, user, course, ⟨henrollment, huser, hcourse, hon, hon'⟩, hmore⟩
    exact ⟨_, ⟨enrollment, henrollment, rfl⟩, _, ⟨user, huser, hon, rfl⟩, _,
      ⟨course, hcourse, hon', rfl⟩, hmore⟩

/-- Further conditions on enrollments and courses leave the rows that keep them. -/
theorem joined_iff (hR : R.Logical) : Joined ctx dates ends enrollment user course ↔
    Joined ctx [] [] enrollment user course ∧
      (∀ e ∈ dates, R.holds [(Table.enrollment.name, some enrollment)] e) ∧
      ∀ e ∈ ends, R.holds [(Table.course.name, some course)] e := by
  constructor
  · rintro ⟨henrollment, huser, hcourse, hon, hon'⟩
    rw [hR.answers_append_iff] at henrollment hcourse
    refine ⟨⟨?_, huser, ?_, hon, hon'⟩, henrollment.2, hcourse.2⟩
    · exact (List.append_nil _).symm ▸ henrollment.1
    · exact (List.append_nil _).symm ▸ hcourse.1
  · rintro ⟨⟨henrollment, huser, hcourse, hon, hon'⟩, hdates, hends⟩
    rw [List.append_nil] at henrollment hcourse
    exact ⟨hR.answers_append_iff.mpr ⟨henrollment, hdates⟩, huser,
      hR.answers_append_iff.mpr ⟨hcourse, hends⟩, hon, hon'⟩

theorem joined_undated_iff : Joined ctx.undated dates ends enrollment user course ↔
    Joined ctx dates ends enrollment user course :=
  ⟨fun ⟨h, h', h'', hon, hon'⟩ => ⟨h, h', h'', hon, hon'⟩,
    fun ⟨h, h', h'', hon, hon'⟩ => ⟨h, h', h'', hon, hon'⟩⟩

/-- The rows of the live branch are joined and keep its own restrictions. -/
theorem rowOf_live_iff (h : ctx.type = .usersCourses) :
    R.RowOf (Layout.branch ctx .live) scope ↔
      (∃ enrollment user course,
        Joined ctx (Restrictions.enrollmentDates ctx) (courseDates ctx) enrollment user course ∧
        R.Combines (liveScope enrollment user course) (Branch.ofFragments (liveRest ctx)).sources
          scope) ∧
      ∀ e, .and e ∈ (Branch.ofFragments (liveRest ctx)).restrictions → R.holds scope e := by
  rw [branch_live_eq h, ← combines_liveSources_iff]
  exact ⟨fun hrow => ⟨hrow.combines, hrow.keeps⟩, fun hrow => ⟨hrow.1, hrow.2⟩⟩

theorem rowOf_undated_iff (h : ctx.type = .usersCourses) :
    R.RowOf (Layout.branch ctx.undated .live) scope ↔
      (∃ enrollment user course, Joined ctx [] [] enrollment user course ∧
        R.Combines (liveScope enrollment user course) (Branch.ofFragments (liveRest ctx)).sources
          scope) ∧
      ∀ e, .and e ∈ (Branch.ofFragments (liveRest ctx)).restrictions → R.holds scope e := by
  have hundated : ctx.undated.type = .usersCourses := h
  have hnone : Restrictions.enrollmentDates ctx.undated = [] ∧ courseDates ctx.undated = [] :=
    ⟨rfl, rfl⟩
  simp only [rowOf_live_iff hundated, liveRest_undated h, hnone, joined_undated_iff]

/-- A row that passes everything but the dates joins an enrollment, its user and its course. With
the dates it stays if both the enrollment and the course keep their conditions. -/
theorem rowOf_live_of_undated (hR : R.Logical) (h : ctx.type = .usersCourses)
    (hrow : R.RowOf (Layout.branch ctx.undated .live) scope) :
    ∃ enrollment user course more, scope = liveScope enrollment user course ++ more ∧
      (R.RowOf (Layout.branch ctx .live) scope ↔
        (∀ e ∈ Restrictions.enrollmentDates ctx,
          R.holds [(Table.enrollment.name, some enrollment)] e) ∧
        ∀ e ∈ courseDates ctx, R.holds [(Table.course.name, some course)] e) := by
  obtain ⟨⟨enrollment, user, course, hjoined, hmore⟩, hkeeps⟩ := (rowOf_undated_iff h).mp hrow
  obtain ⟨more, rfl⟩ := hmore.exists_append
  refine ⟨enrollment, user, course, more, rfl, ?_⟩
  rw [rowOf_live_iff h]
  constructor
  · rintro ⟨⟨_, _, _, hdated, hsame⟩, -⟩
    obtain ⟨_, heq⟩ := hsame.exists_append
    cases heq
    exact ((joined_iff hR).mp hdated).2
  · rintro hdates
    exact ⟨⟨enrollment, user, course, (joined_iff hR).mpr ⟨hjoined, hdates⟩, hmore⟩, hkeeps⟩

end Rows
end Undated

/-! ## All options together -/

/-- The report asks for at least one condition, there are verdicts in both groups, and only one of
the groups has a true one. -/
def IsTorn (how : DateConditions) (as bs : List Prop) : Prop :=
  how = .atLeastOne ∧ as ≠ [] ∧ bs ≠ [] ∧ ¬((∃ a ∈ as, a) ↔ ∃ b ∈ bs, b)

/-- Two groups of verdicts say the same apart as together, unless they are torn. -/
theorem among_apart_iff (how : DateConditions) (as bs : List Prop) :
    (how.Among id as ∧ how.Among id bs ↔ how.Among id (as ++ bs)) ↔ ¬IsTorn how as bs := by
  cases how with
  | all => simp [IsTorn, DateConditions.Among, or_imp, forall_and]
  | atLeastOne =>
    by_cases has : as = []
    · simp [has, IsTorn, DateConditions.Among]
    · by_cases hbs : bs = []
      · simp [hbs, IsTorn, DateConditions.Among]
      · have hany : (∃ v ∈ as ++ bs, v) ↔ (∃ a ∈ as, a) ∨ ∃ b ∈ bs, b := by
          simp [or_and_right, exists_or]
        simp only [IsTorn, DateConditions.Among, id, ne_eq, has, hbs, List.append_eq_nil_iff,
          and_self, not_false_eq_true, forall_const, true_and, hany, not_not]
        generalize (∃ a ∈ as, a) = p, (∃ b ∈ bs, b) = q
        tauto

section Agreement

variable {R : Sql.Reading} {scope : Scope R.Row}

variable (R) in
/-- What the options on the dates of an enrollment say of its row. -/
def enrollmentVerdicts (d : Definition) (enrollment : R.Row) : List Prop :=
  R.verdicts .enrollment enrollment (enrollmentOptions d)

variable (R) in
def courseVerdicts (d : Definition) (course : R.Row) : List Prop :=
  R.verdicts .course course (courseOptions d)

/-- What becomes of a row that passes everything but the date options. -/
structure DatesKept (ctx : Context) (R : Sql.Reading) (scope : Scope R.Row)
    (enrollment course : R.Row) : Prop where
  /-- The options on the enrollment and the one on the course count apart. -/
  apart : R.RowOf (Layout.branch ctx .live) scope ↔
    ctx.definition.conditions.Among id (enrollmentVerdicts R ctx.definition enrollment) ∧
      ctx.definition.conditions.Among id (courseVerdicts R ctx.definition course)
  /-- All options decide together, unless the two groups are torn. -/
  together : (R.RowOf (Layout.branch ctx .live) scope ↔ ctx.definition.conditions.Among id
      (enrollmentVerdicts R ctx.definition enrollment ++ courseVerdicts R ctx.definition course)) ↔
    ¬IsTorn ctx.definition.conditions (enrollmentVerdicts R ctx.definition enrollment)
      (courseVerdicts R ctx.definition course)
  /-- An option is fulfilled by the points in time that it admits. -/
  meant {c : Calendar} {time : R.Row → Expr → Option ℚ} (hreads : R.ReadsDates c time) (t : Table)
      (row : R.Row) (column : String) {o : DateOption} (ho : o.Effective) (hdays : o.HasDays) :
    R.Fulfils t row (.name column, o) ↔ o.Holds c (time row (.name column))

theorem datesKept {ctx : Context} (hR : R.Logical) (h : ctx.type = .usersCourses)
    (hrow : R.RowOf (Layout.branch ctx.undated .live) scope) :
    ∃ enrollment user course more, scope = liveScope enrollment user course ++ more ∧
      DatesKept ctx R scope enrollment course := by
  obtain ⟨enrollment, user, course, more, hscope, hlive⟩ := rowOf_live_of_undated hR h hrow
  have hapart : R.RowOf (Layout.branch ctx .live) scope ↔
      ctx.definition.conditions.Among id (enrollmentVerdicts R ctx.definition enrollment) ∧
        ctx.definition.conditions.Among id (courseVerdicts R ctx.definition course) :=
    hlive.trans (and_congr (hR.combined_iff ..) (hR.combined_iff ..))
  refine ⟨enrollment, user, course, more, hscope, hapart, ?_,
    fun hreads t row column => Sql.Reading.fulfils_iff_holds (hreads t row column)⟩
  rw [hapart]
  exact among_apart_iff _ _ _

end Agreement

section Compilation

variable {m : Type → Type} [Monad m] [MonadExceptOf Failure m] [MonadAttach m] [LawfulService m]

theorem context_undated (dir : Directory m) (w : Warehouse) (d : Definition) (s : Session)
    (checkVisibility : Bool) : Gather.context dir w d.undated s checkVisibility =
      Context.undated <$> Gather.context dir w d s checkVisibility :=
  Gather.context_of_asksSame w d d.undated s s rfl rfl rfl rfl rfl (by rintro ctx rfl rfl; rfl)

/-- The live branch of a report of users and courses asks apart for the options on the enrollment
and for the one on the course. -/
theorem compile_keeps_dates {dir : Directory m} {w : Warehouse} {d : Definition} {s : Session}
    {engine : Sql.Dialect} {o : CompileOptions} {r : Compiled} (htype : d.type = .usersCourses)
    (h : CanReturn (Report.compile dir w d s engine o) r) :
    Gather.context dir w d.undated s o.checkVisibility =
        Context.undated <$> Gather.context dir w d s o.checkVisibility ∧
    ∃ ctx, CanReturn (Gather.context dir w d s o.checkVisibility) ctx ∧ ctx.definition = d ∧
      r.sql = engine.renderQuery (Query.ofContext ctx o.limit o.use) ∧
      (Query.emits ctx .live = true →
        Occurs (engine.renderBranch (Layout.branch ctx .live)) r.sql) ∧
      (∀ R : Sql.Reading, R.Logical → ∀ scope, R.RowOf (Layout.branch ctx.undated .live) scope →
        ∃ enrollment user course more, scope = liveScope enrollment user course ++ more ∧
          DatesKept ctx R scope enrollment course) := by
  obtain ⟨-, ctx, hctx, hgathered, rfl⟩ := gathered_of_compile h
  refine ⟨context_undated dir w d s _, ctx, hctx, hgathered.definition, rfl, fun hlive => ?_,
    fun R hR scope hrow => ?_⟩
  · exact occurs_renderQuery (Query.mem_branchesOf.mpr ⟨.live, hlive, rfl⟩)
  · have hctype : ctx.type = .usersCourses := by rw [Context.type, hgathered.definition, htype]
    exact datesKept hR hctype hrow

end Compilation

/-! ## Rows with dates alone -/

/-- What a condition says of the points in time in a row; conditions on anything else hold. -/
def timesSay (c : Calendar) (row : String → Option ℚ) : Expr → Prop
  | .word w => w ≠ "FALSE"
  | .paren e => timesSay c row e
  | .op .and a b => timesSay c row a ∧ timesSay c row b
  | .op .or a b => timesSay c row a ∨ timesSay c row b
  | .op o (.name column) (.moment m) =>
    ∃ x y, row column = some x ∧ c.timeOfMoment? m = some y ∧ o.compare x y = true
  | _ => True

/-- An engine that looks at nothing but dates. -/
def datesAlone (c : Calendar) : Sql.Reading where
  Row := String → Option ℚ
  inTable _ _ := True
  answers q row := ∀ e ∈ q.conditions, timesSay c row e
  holds scope e :=
    match scope with
    | [(_, some row)] => timesSay c row e
    | _ => e ≠ .never
  not_never scope := by
    split
    · exact fun h => h rfl
    · exact fun h => h rfl
  answers_rows h := ⟨trivial, fun e he => h e (List.mem_cons_of_mem _ he)⟩

section DatesAlone

variable {c : Calendar} {row : String → Option ℚ}

theorem timesSay_joined_and (e : Expr) (es : List Expr) :
    timesSay c row (.joined .and e es) ↔ ∀ a ∈ e :: es, timesSay c row a := by
  induction es generalizing e with
  | nil => simp [Expr.joined]
  | cons a es ih =>
    rw [Expr.joined, ih]
    simp [timesSay, and_assoc]

theorem timesSay_joined_or (e : Expr) (es : List Expr) :
    timesSay c row (.joined .or e es) ↔ ∃ a ∈ e :: es, timesSay c row a := by
  induction es generalizing e with
  | nil => simp [Expr.joined]
  | cons a es ih =>
    rw [Expr.joined, ih]
    simp [timesSay, or_assoc]

theorem logical_datesAlone (c : Calendar) : (datesAlone c).Logical where
  all {_ row e es} := by
    have hall : (∀ a ∈ e :: es, timesSay c row a) ↔
        ∀ a ∈ Expr.paren e :: es.map .paren, timesSay c row a := by
      simp [timesSay]
    exact (timesSay_joined_and _ _).trans hall.symm
  any {_ row e es} := by
    have hany : (∃ a ∈ e :: es, timesSay c row a) ↔
        ∃ a ∈ Expr.paren e :: es.map .paren, timesSay c row a := by
      simp [timesSay]
    exact (timesSay_joined_or _ _).trans hany.symm
  rows {_ _ row} _ hall :=
    have halways : timesSay c row .always := by
      change "TRUE" ≠ "FALSE"
      decide
    List.forall_mem_cons.mpr ⟨halways, hall⟩

theorem timesSay_compareWith (column : String) {b : Sql.Operator × Sql.Moment} {y : ℚ}
    (hb : DateOption.IsBound b) (hy : c.timeOfMoment? b.2 = some y) :
    timesSay c row (DateOption.compareWith (.name column) b) ↔
      ∃ x, row column = some x ∧ b.1.compare x y = true := by
  obtain ⟨o, m⟩ := b
  have hsays : timesSay c row (.op o (.name column) (.moment m)) ↔
      ∃ x z, row column = some x ∧ c.timeOfMoment? m = some z ∧ o.compare x z = true := by
    cases o with
    | ge | le | lt => exact Iff.rfl
    | _ => exact absurd hb.1 (by simp [Sql.Operator.bounding])
  have hm : c.timeOfMoment? m = some y := hy
  refine hsays.trans ?_
  simp [hm]

theorem readsDates_datesAlone (c : Calendar) : (datesAlone c).ReadsDates c fun row column =>
    match column with
    | .name column => row column
    | _ => none := by
  intro t row column
  refine ⟨fun {b bs} _ => ?_, fun hb hy => timesSay_compareWith column hb hy⟩
  have hall : (∀ a ∈ b :: bs, timesSay c row (DateOption.compareWith (.name column) a)) ↔
      ∀ e ∈ (b :: bs).map (DateOption.compareWith (.name column)), timesSay c row e := by
    rw [List.forall_mem_map]
  exact (timesSay_joined_and _ _).trans hall.symm

end DatesAlone

/-- A report on what was begun lately or is soon to end. -/
def recentOrExpiring : Definition :=
  { idReport := "r1", type := .usersCourses, fields := ["user_userid", "course_name"]
    conditions := .atLeastOne
    enrollmentDate := some (.relative "isAfter" 7)
    courseExpirationDate := some (.relative "expiringIn" 30) }

def owner : Session := { idUser := 1 }

def untranslated : Directory Outcome :=
  { Records.directory { session := owner } with wordings := fun _ _ => .ok [] }

def recentContext : Context :=
  { definition := recentOrExpiring, session := owner
    labels := [("user_userid", .str "Username"), ("course_name", .str "_COURSE_NAME")] }

theorem context_recent :
    Gather.context untranslated .complete recentOrExpiring owner true = .ok recentContext := by
  rfl

theorem compile_recent : Report.compile untranslated .complete recentOrExpiring owner .athena {} =
    .ok (Report.compiled recentContext .athena {}) := by
  unfold Report.compile
  rw [context_recent]
  rfl

theorem occurs_recent : Occurs (Sql.Dialect.athena.renderBranch (Layout.branch recentContext .live))
    (Report.compiled recentContext .athena {}).sql :=
  occurs_renderQuery (Query.mem_branchesOf.mpr ⟨.live, rfl, rfl⟩)

theorem rowOf_recent (c : Calendar) (enrollment user course : String → Option ℚ) :
    (datesAlone c).RowOf (Layout.branch recentContext.undated .live)
      (liveScope (R := datesAlone c) enrollment user course) := by
  have halways (row : String → Option ℚ) : ∀ e ∈ [Expr.always], timesSay c row e := by
    intro e he
    cases List.mem_singleton.mp he
    change "TRUE" ≠ "FALSE"
    decide
  refine (rowOf_undated_iff rfl).mpr ⟨⟨enrollment, user, course, ?_, .nil⟩, ?_⟩
  · exact ⟨halways enrollment, halways user, halways course, nofun, nofun⟩
  · intro e he
    cases List.mem_singleton.mp he
    exact nofun

section Recent

variable (c : Calendar) (row : String → Option ℚ)

theorem holds_of_datesAlone (t : Table) (column : String) {operator : String}
    (ho : operator ∈ DateOption.dayOperators) (n : Int) :
    (datesAlone c).Fulfils t row (.name column, .relative operator n) ↔
      (DateOption.relative operator n).Holds c (row column) :=
  Sql.Reading.fulfils_iff_holds (readsDates_datesAlone c t row column)
    (DateOption.effective_relative ho n) ⟨nofun, nofun⟩

theorem among_enrollment_recent :
    recentOrExpiring.conditions.Among id (enrollmentVerdicts (datesAlone c) recentOrExpiring row) ↔
      (DateOption.relative "isAfter" 7).Holds c (row "date_inscr") :=
  (DateFilter.among_singleton_iff _ id _).trans
    (holds_of_datesAlone c row .enrollment "date_inscr" (by decide) 7)

theorem among_course_recent :
    recentOrExpiring.conditions.Among id (courseVerdicts (datesAlone c) recentOrExpiring row) ↔
      (DateOption.relative "expiringIn" 30).Holds c (row "date_end") :=
  (DateFilter.among_singleton_iff _ id _).trans
    (holds_of_datesAlone c row .course "date_end" (by decide) 30)

end Recent

def hundredth : Calendar := ⟨100, fun _ => 0⟩

def dated (column : String) (day : Int) : String → Option ℚ :=
  fun name => if name = column then some (dayStart day) else none

theorem holds_threeDaysOld :
    (DateOption.relative "isAfter" 7).Holds hundredth (dated "date_inscr" 97 "date_inscr") := by
  refine ⟨dayStart 97, rfl, ?_⟩
  rw [DateOption.admits_relative_isAfter]
  decide +kernel

/-- An enrollment of three days ago in a course that ends in ten days is kept. -/
theorem compile_keeps_dates_recent :
    recentOrExpiring.type = .usersCourses ∧
      Report.compile untranslated .complete recentOrExpiring owner .athena {} =
        .ok (Report.compiled recentContext .athena {}) ∧
      Occurs (Sql.Dialect.athena.renderBranch (Layout.branch recentContext .live))
        (Report.compiled recentContext .athena {}).sql ∧
      (datesAlone hundredth).RowOf (Layout.branch recentContext .live) (liveScope
        (R := datesAlone hundredth) (dated "date_inscr" 97) (fun _ => none)
        (dated "date_end" 110)) := by
  have hreturn : CanReturn (Report.compile untranslated .complete recentOrExpiring owner .athena {})
      (Report.compiled recentContext .athena {}) := compile_recent
  obtain ⟨-, ctx, hctx, -, -, hoccurs, hkept⟩ := compile_keeps_dates rfl hreturn
  cases Except.ok.inj (context_recent.symm.trans hctx)
  refine ⟨rfl, compile_recent, hoccurs rfl, ?_⟩
  obtain ⟨_, _, _, _, hscope, hdates⟩ := hkept _ (logical_datesAlone hundredth) _
    (rowOf_recent hundredth (dated "date_inscr" 97) (fun _ => none) (dated "date_end" 110))
  cases hscope
  refine hdates.apart.mpr ⟨(among_enrollment_recent ..).mpr holds_threeDaysOld,
    (among_course_recent ..).mpr ⟨dayStart 110, rfl, ?_⟩⟩
  rw [DateOption.admits_relative_expiringIn]
  decide +kernel

/-- At least one condition holds of an enrollment of three days ago in a course without an end, and
still the row is left out. -/
theorem compile_drops_dates_recent :
    recentOrExpiring.type = .usersCourses ∧ recentOrExpiring.conditions = .atLeastOne ∧
      Report.compile untranslated .complete recentOrExpiring owner .athena {} =
        .ok (Report.compiled recentContext .athena {}) ∧
      Occurs (Sql.Dialect.athena.renderBranch (Layout.branch recentContext .live))
        (Report.compiled recentContext .athena {}).sql ∧
      (datesAlone hundredth).Logical ∧
      ∃ scope, scope = liveScope (R := datesAlone hundredth) (dated "date_inscr" 97)
          (fun _ => none) (fun _ => none) ∧
        (datesAlone hundredth).RowOf (Layout.branch recentContext.undated .live) scope ∧
        (DateOption.relative "isAfter" 7).Holds hundredth (dated "date_inscr" 97 "date_inscr") ∧
        recentOrExpiring.conditions.Among id
          (enrollmentVerdicts (datesAlone hundredth) recentOrExpiring (dated "date_inscr" 97) ++
            courseVerdicts (datesAlone hundredth) recentOrExpiring (fun _ => none)) ∧
        ¬(datesAlone hundredth).RowOf (Layout.branch recentContext .live) scope := by
  have hrow := rowOf_recent hundredth (dated "date_inscr" 97) (fun _ => none) (fun _ => none)
  have hlogical := logical_datesAlone hundredth
  obtain ⟨_, _, _, _, hscope, hdates⟩ := datesKept hlogical rfl hrow
  cases hscope
  refine ⟨rfl, rfl, compile_recent, occurs_recent, hlogical, _, rfl, hrow, holds_threeDaysOld,
    fun _ => ?_, fun h => ?_⟩
  · refine ⟨_, List.mem_cons_self, ?_⟩
    exact (holds_of_datesAlone hundredth _ .enrollment "date_inscr" (by decide) 7).mpr
      holds_threeDaysOld
  · obtain ⟨_, hx, -⟩ := (among_course_recent ..).mp (hdates.apart.mp h).2
    cases hx

end UsersCourses
end LearningReports
