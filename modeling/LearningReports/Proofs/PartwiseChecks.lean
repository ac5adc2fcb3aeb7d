import LearningReports.Proofs.BracketedConditions
import LearningReports.Proofs.ColumnOutlines
import LearningReports.Proofs.DateOptions
import LearningReports.Proofs.Scopes
import LearningReports.Proofs.Sides

/-! # Checks of conditions

A check that goes through an expression part by part accepts the conditions of a report when it
accepts the columns on which they stand and the bounds of their dates. -/
namespace LearningReports

open Sql (Expr)
open Text (isPlain)

/-- The expression names no table, puts no text between quotes as it is and has its brackets. -/
def Sql.Expr.isBare (e : Expr) : Bool := (e.isFixed && e.isScoped []) && e.isBracketed false

/-- A check that accepts all bare expressions, and what is made of accepted ones, together with the
check of what stands in parentheses. -/
class Sql.Expr.Partwise (q : Expr → Bool) (p : outParam (Expr → Bool)) : Prop where
  bare {e : Expr} (h : e.isBare = true) : q e = true
  inside {e : Expr} (h : q e = true) : p e = true
  paren {e : Expr} (h : p e = true) : q (.paren e) = true
  or {a b : Expr} (ha : p a = true) (hb : p b = true) : p (.op .or a b) = true
  op {a b : Expr} (o : Sql.Operator) (ho : o ≠ .or) (ha : q a = true) (hb : q b = true) :
    q (.op o a b) = true
  pair {a b : Expr} (ha : q a = true) (hb : q b = true) : q (.pair a b) = true
  isNull {e : Expr} (h : q e = true) : q (.isNull e) = true
  not {e : Expr} (h : q (.paren e) = true) : q (.not (.paren e)) = true
  apply {f : Sql.Function} {e : Expr} (hf : f.isClosed (fun _ => false) = true) (h : q e = true) :
    q (.apply f e) = true
  /-- What an inner selection asks of its own table is bare. -/
  inSelect {e item condition : Expr} {table : String} (negated : Bool) (he : q e = true)
    (hitem : item.isBare = true) (htable : isPlain table = true)
    (hcondition : condition.isBare = true) : q (.inSelect negated e item table condition) = true

namespace Sql.Expr.Partwise

section Bare

variable {e : Expr} (h : e.isBare = true)
include h

theorem isClosed_of_isBare (p : String → Bool) : e.isClosed p = true :=
  isClosed_of_isFixed p ((Bool.and_eq_true _ _).mp ((Bool.and_eq_true _ _).mp h).1).1

theorem isScoped_of_isBare (known : List String) : e.isScoped known = true :=
  isScoped_mono (List.nil_subset _) ((Bool.and_eq_true _ _).mp ((Bool.and_eq_true _ _).mp h).1).2

theorem isBracketed_of_isBare : e.isBracketed false = true := ((Bool.and_eq_true _ _).mp h).2

end Bare

instance (p : String → Bool) : Partwise (isClosed p) (isClosed p) where
  bare h := isClosed_of_isBare h p
  inside h := h
  paren h := h
  or ha hb := (Bool.and_eq_true _ _).mpr ⟨ha, hb⟩
  op _ _ ha hb := (Bool.and_eq_true _ _).mpr ⟨ha, hb⟩
  pair ha hb := (Bool.and_eq_true _ _).mpr ⟨ha, hb⟩
  isNull h := h
  not h := h
  apply hf h := (Bool.and_eq_true _ _).mpr ⟨Function.isClosed_of_isFixed p hf, h⟩
  inSelect _ he hitem htable hcondition := by
    rw [isClosed, he, isClosed_of_isBare hitem p, htable, isClosed_of_isBare hcondition p]
    rfl

instance (known : List String) : Partwise (isScoped known) (isScoped known) where
  bare h := isScoped_of_isBare h known
  inside h := h
  paren h := h
  or ha hb := (Bool.and_eq_true _ _).mpr ⟨ha, hb⟩
  op _ _ ha hb := (Bool.and_eq_true _ _).mpr ⟨ha, hb⟩
  pair ha hb := (Bool.and_eq_true _ _).mpr ⟨ha, hb⟩
  isNull h := h
  not h := h
  apply _ h := h
  inSelect _ he hitem _ hcondition := by
    rw [isScoped, he, isScoped_of_isBare hitem, isScoped_of_isBare hcondition]
    rfl

instance : Partwise (isBracketed false) (isBracketed true) where
  bare := isBracketed_of_isBare
  inside := isBracketed_mono
  paren h := h
  or ha hb := (Bool.and_eq_true _ _).mpr ⟨ha, hb⟩
  op o ho ha hb := by
    cases o with
    | or => exact absurd rfl ho
    | _ => exact (Bool.and_eq_true _ _).mpr ⟨ha, hb⟩
  pair ha hb := (Bool.and_eq_true _ _).mpr ⟨ha, hb⟩
  isNull h := h
  not h := h
  apply _ h := h
  inSelect _ he hitem _ hcondition := by
    rw [isBracketed, he, isBracketed_of_isBare hitem,
      isBracketed_mono (isBracketed_of_isBare hcondition)]
    rfl

section Both

variable {q p q' p' : Expr → Bool}

theorem and_mono {a a' b b' : Bool} (h : a = true → b = true) (h' : a' = true → b' = true)
    (ha : (a && a') = true) : (b && b') = true := by
  obtain ⟨ha, ha'⟩ := (Bool.and_eq_true _ _).mp ha
  exact (Bool.and_eq_true _ _).mpr ⟨h ha, h' ha'⟩

theorem and_mono₂ {a a' b b' c c' : Bool} (h : a = true → b = true → c = true)
    (h' : a' = true → b' = true → c' = true) (ha : (a && a') = true) (hb : (b && b') = true) :
    (c && c') = true := by
  obtain ⟨ha, ha'⟩ := (Bool.and_eq_true _ _).mp ha
  exact and_mono (h ha) (h' ha') hb

theorem both (h : Partwise q p) (h' : Partwise q' p') :
    Partwise (fun e => q e && q' e) (fun e => p e && p' e) where
  bare he := (Bool.and_eq_true _ _).mpr ⟨h.bare he, h'.bare he⟩
  inside := and_mono h.inside h'.inside
  paren := and_mono h.paren h'.paren
  or := and_mono₂ h.or h'.or
  op o ho := and_mono₂ (h.op o ho) (h'.op o ho)
  pair := and_mono₂ h.pair h'.pair
  isNull := and_mono h.isNull h'.isNull
  not := and_mono h.not h'.not
  apply hf := and_mono (h.apply hf) (h'.apply hf)
  inSelect negated he hitem htable hcondition :=
    and_mono (h.inSelect negated · hitem htable hcondition)
      (h'.inSelect negated · hitem htable hcondition) he

end Both

instance : Partwise isBare fun e => (e.isFixed && e.isScoped []) && e.isBracketed true :=
  both (both inferInstance inferInstance) inferInstance

variable {q p : Expr → Bool} [checks : Partwise q p] {e : Expr} {es : List Expr}
include checks

theorem group (h : q e = true) : q (.paren e) = true := paren (inside h)

theorem joined (o : Operator) (ho : o ≠ .or) (he : q e = true) (hes : es.all q = true) :
    q (Expr.joined o e es) = true := by
  induction es generalizing e with
  | nil => exact he
  | cons e' es ih =>
    obtain ⟨he', hes⟩ := (Bool.and_eq_true _ _).mp hes
    exact ih (op o ho he he') hes

/-- Conditions joined by OR belong in parentheses. -/
theorem joined_or (he : p e = true) (hes : es.all q = true) :
    p (Expr.joined .or e es) = true := by
  induction es generalizing e with
  | nil => exact he
  | cons e' es ih =>
    obtain ⟨he', hes⟩ := (Bool.and_eq_true _ _).mp hes
    exact ih (checks.or he (inside he')) hes

theorem list (he : q e = true) (hes : es.all q = true) : q (Expr.list e es) = true := by
  induction es generalizing e with
  | nil => exact he
  | cons e' es ih =>
    obtain ⟨he', hes⟩ := (Bool.and_eq_true _ _).mp hes
    exact pair he (ih he' hes)

theorem joined_groups (o : Operator) (he : q e = true) (hes : es.all q = true) :
    q (.paren (Expr.joined o (.paren e) (es.map .paren))) = true := by
  have hgroups : (es.map Expr.paren).all q = true := by
    rw [List.all_map]
    exact List.all_eq_true.mpr fun a ha => group (List.all_eq_true.mp hes a ha)
  by_cases ho : o = .or
  · subst ho
    exact paren (joined_or (inside (group he)) hgroups)
  · exact group (joined o ho (group he) hgroups)

theorem oneOf {first : Expr} (he : q e = true) (hfirst : q first = true) (hes : es.all q = true) :
    q (Expr.oneOf e first es) = true :=
  op .among nofun he (group (list hfirst hes))

end Sql.Expr.Partwise

/-! ## Lists of conditions -/

/-- The conditions pass a check, and can stand at the end of a text that is trimmed. -/
def Passed (p : Expr → Bool) (es : List Expr) : Prop :=
  ∀ e ∈ es, p e = true ∧ e.endsSolid = true

namespace Passed

variable {p : Expr → Bool} {e : Expr} {es fs : List Expr}

theorem nil : Passed p [] := List.forall_mem_nil _

theorem cons (he : p e = true ∧ e.endsSolid = true) (hes : Passed p es) : Passed p (e :: es) :=
  List.forall_mem_cons.mpr ⟨he, hes⟩

theorem singleton (he : p e = true ∧ e.endsSolid = true) : Passed p [e] := .cons he .nil

theorem append (hes : Passed p es) (hfs : Passed p fs) : Passed p (es ++ fs) :=
  List.forall_mem_append.mpr ⟨hes, hfs⟩

theorem when {condition : Bool} (hes : Passed p es) : Passed p (when condition es) :=
  fun e he => hes e (mem_when.mp he).2

theorem all (hes : Passed p es) : es.all p = true :=
  List.all_eq_true.mpr fun e he => (hes e he).1

end Passed

/-! ## Bounds of dates -/

namespace DateFilter

/-- The bounds that an option puts into a query pass a check. -/
def BoundsPass (p : Expr → Bool) (o : Option DateOption) : Prop :=
  ∀ d ∈ o, isActive o = true → d.type = "range" ∨ d.operator = "range" →
    p (.moment (.at (dayOf d.first ++ " 00:00:00"))) = true ∧
      p (.moment (.at (dayOf d.last ++ " 23:59:59"))) = true

/-- The columns with date options, and the bounds of the options, pass a check. -/
def PairsPass (p : Expr → Bool) (pairs : List Dated) : Prop :=
  ∀ pair ∈ pairs, p pair.1 = true ∧ BoundsPass p pair.2

section

variable {p : Expr → Bool} {column : Expr} {o : Option DateOption}

theorem PairsPass.cons {pairs : List Dated} (hcolumn : p column = true)
    (ho : BoundsPass p o) (hpairs : PairsPass p pairs) : PairsPass p ((column, o) :: pairs) :=
  List.forall_mem_cons.mpr ⟨⟨hcolumn, ho⟩, hpairs⟩

theorem PairsPass.singleton (hcolumn : p column = true)
    (ho : BoundsPass p o) : PairsPass p [(column, o)] :=
  .cons hcolumn ho (List.forall_mem_nil _)

end

end DateFilter

/-- The bounds of all dates of a definition pass a check. -/
structure Definition.BoundsPass (p : Expr → Bool) (d : Definition) : Prop where
  enrollment : DateFilter.BoundsPass p d.enrollmentDate
  completion : DateFilter.BoundsPass p d.completionDate
  surveyCompletion : DateFilter.BoundsPass p d.surveyCompletionDate
  archiving : DateFilter.BoundsPass p d.archivingDate
  courseExpiration : DateFilter.BoundsPass p d.courseExpirationDate
  published : DateFilter.BoundsPass p d.publishedDate
  sessions : ∀ s ∈ d.sessionDates, DateFilter.BoundsPass p (some s.start) ∧
    DateFilter.BoundsPass p (some s.finish)

section Conditions

variable {q p : Expr → Bool} [checks : Sql.Expr.Partwise q p] {column : Expr}
include checks

open Sql.Expr (Partwise)

theorem IdFilter.passed (f : IdFilter) (h : q column = true) : Passed q (f.conditions column) := by
  match f with
  | .unrestricted => exact .nil
  | .only [] => exact .singleton ⟨Partwise.bare rfl, rfl⟩
  | .only (_ :: _) => exact .singleton ⟨Partwise.op _ nofun h (Partwise.bare rfl), rfl⟩

omit checks in
theorem isBare_optionComparison (field option : Int) :
    (Expr.eq (.name (CustomField.columnOf field)) (.int option)).isBare = true :=
  have hcolumn : (Expr.name (CustomField.columnOf field)).isBare = true := by
    simp [Expr.isBare, Expr.isClosed, Expr.isScoped, Expr.isBracketed, isPlain_columnOf]
  Partwise.op .eq nofun hcolumn rfl

theorem Context.passed_userFields (ctx : Context) (h : q column = true) :
    Passed q (ctx.userFieldConditions column) := by
  unfold Context.userFieldConditions
  split
  · exact .nil
  · next e es hes =>
    have hall : ∀ e' ∈ e :: es, e'.isBare = true := by
      rw [← hes]
      intro e' he'
      obtain ⟨⟨field, option⟩, -, rfl⟩ := List.mem_map.mp he'
      exact isBare_optionComparison field option
    obtain ⟨he, hrest⟩ := List.forall_mem_cons.mp hall
    have hjoined : (Expr.joined .and e es).isBare = true :=
      Partwise.joined .and nofun he (List.all_eq_true.mpr hrest)
    exact .singleton ⟨Partwise.inSelect false h rfl rfl hjoined, rfl⟩

/-! ## Dates -/

namespace DateFilter

variable {e : Expr}

theorem passes_comparisons {d : DateOption} (hcolumn : q column = true)
    (ho : BoundsPass q (some d)) :
    ∀ b ∈ d.comparisons, q (DateOption.compareWith column b) = true := by
  have hbounding : ∀ a ∈ Sql.Operator.bounding, a ≠ .or := by decide
  refine DateOption.forall_mem_comparisons (fun hactive hrange => ?_)
    (fun _ ha => Partwise.op _ (hbounding _ ha) hcolumn (Partwise.bare rfl))
    (fun _ ha _ => Partwise.op _ (hbounding _ ha) hcolumn (Partwise.bare rfl))
  obtain ⟨hfirst, hlast⟩ := ho d rfl hactive hrange
  exact DateOption.forall_mem_boundComparisons.mpr
    ⟨fun _ => Partwise.op _ nofun hcolumn hfirst, fun _ => Partwise.op _ nofun hcolumn hlast⟩

theorem passes_condition? {o : Option DateOption} (hcolumn : q column = true)
    (ho : BoundsPass q o) (h : condition? column o = some e) : q e = true := by
  cases o with
  | none => cases h
  | some d =>
    have hall := passes_comparisons hcolumn ho
    rw [DateOption.condition?_eq] at h
    cases hbs : d.comparisons with
    | nil =>
      rw [hbs] at h
      cases h
    | cons b bs =>
      rw [hbs] at h hall
      cases h
      obtain ⟨hb, hrest⟩ := List.forall_mem_cons.mp hall
      exact Partwise.joined .and nofun hb
        (List.all_map.trans (List.all_eq_true.mpr hrest))

theorem passed_combined {how : DateConditions} {pairs : List Dated} (h : PairsPass q pairs) :
    Passed q (combined how pairs) := by
  have hall : ∀ e ∈ conditions pairs, q e = true := by
    intro e he
    obtain ⟨pair, hpair, hcondition⟩ := List.mem_filterMap.mp he
    obtain ⟨hcolumn, hbounds⟩ := h pair hpair
    exact passes_condition? hcolumn hbounds hcondition
  intro e he
  rw [combined, Option.mem_toList, combined?] at he
  cases hes : conditions pairs with
  | nil =>
    rw [hes] at he
    cases he
  | cons a as =>
    rw [hes] at he hall
    cases he
    obtain ⟨ha, has⟩ := List.forall_mem_cons.mp hall
    exact ⟨Partwise.joined_groups _ ha (List.all_eq_true.mpr has), rfl⟩

end DateFilter

/-! ## Conditions on users, courses and enrollments -/

namespace Restrictions

theorem passed_courseKind (kind : CourseKind) (h : q column = true) :
    Passed q (courseKind kind column) := by
  cases kind with
  | all => exact .nil
  | elearning => exact .singleton ⟨Partwise.op .eq nofun h (Partwise.bare rfl), rfl⟩
  | classroom => exact .singleton ⟨Partwise.op .eq nofun h (Partwise.bare rfl), rfl⟩

theorem passed_learners (ctx : Context) (h : q column = true) : Passed q (learners ctx column) :=
  .when (.singleton ⟨Partwise.op .eq nofun h (Partwise.bare rfl), rfl⟩)

theorem passed_userState (ctx : Context) : Passed q (userState ctx) :=
  .append (.when (.singleton ⟨Partwise.bare rfl, rfl⟩))
    (.when (.singleton ⟨Partwise.bare rfl, rfl⟩))

theorem passed_users (ctx : Context) : Passed q (users ctx) :=
  (ctx.passed_userFields (Partwise.bare rfl)).append (passed_userState ctx)

theorem passed_enrollments (ctx : Context) : Passed q (enrollments ctx) :=
  ((ctx.filters.users.passed (Partwise.bare rfl)).append
    (ctx.filters.courses.passed (Partwise.bare rfl))).append
    (passed_learners ctx (Partwise.bare rfl))

section Dates

variable {ctx : Context} (h : ctx.definition.BoundsPass q)
include h

theorem passed_courses : Passed q (courses ctx) :=
  ((ctx.filters.courses.passed (Partwise.bare rfl)).append
    (passed_courseKind _ (Partwise.bare rfl))).append
    (DateFilter.passed_combined (.singleton (Partwise.bare rfl) h.courseExpiration))

theorem passed_enrollmentDates : Passed q (enrollmentDates ctx) :=
  DateFilter.passed_combined (.cons (Partwise.bare rfl) h.enrollment
    (.singleton (Partwise.bare rfl) h.completion))

end Dates

/-! ### The archive -/

variable (harchived : ∀ column, isPlain column = true → q (archivedCol column) = true)
include harchived

theorem passed_archivedUsersAndCourses (ctx : Context) : Passed q (archivedUsersAndCourses ctx) :=
  ((ctx.filters.users.passed (harchived _ rfl)).append
    (ctx.passed_userFields (harchived _ rfl))).append
    (ctx.filters.courses.passed (harchived _ rfl))

theorem passed_archivedLearners (ctx : Context) : Passed q (archivedLearners ctx) :=
  passed_learners ctx (harchived _ rfl)

theorem passed_archivedDates {ctx : Context} (h : ctx.definition.BoundsPass q) :
    Passed q (archivedDates ctx) := by
  have hend : q CourseColumns.archivedEnd = true :=
    Partwise.apply rfl (Partwise.apply rfl (harchived "course_info" rfl))
  exact (DateFilter.passed_combined (.singleton hend h.courseExpiration)).append
    (DateFilter.passed_combined (.cons (harchived _ rfl) h.enrollment
      (.cons (harchived _ rfl) h.completion (.singleton (harchived _ rfl) h.archiving))))

end Restrictions

/-! ## Statuses of enrollments -/

namespace EnrollmentColumns

variable {status : Expr} {mark : Option WaitingMark}

theorem passes_isAmong {ss : List EnrollmentStatus} {e : Expr} (hstatus : q status = true)
    (h : isAmong status ss = some e) : q e = true := by
  cases ss with
  | nil => cases h
  | cons s rest =>
    cases h
    refine Partwise.oneOf hstatus (Partwise.bare rfl) (List.all_eq_true.mpr fun e he => ?_)
    obtain ⟨s, -, rfl⟩ := List.mem_map.mp he
    exact Partwise.bare rfl

theorem passes_isWaiting (hstatus : q status = true) (hmark : ∀ w ∈ mark, q w.condition = true) :
    p (isWaiting status mark) = true := by
  have hwaiting : q (.eq status EnrollmentStatus.waitingList.expr) = true :=
    Partwise.op .eq nofun hstatus (Partwise.bare rfl)
  cases mark with
  | none => exact checks.inside hwaiting
  | some w => exact checks.or (checks.inside hwaiting) (checks.inside (hmark w rfl))

theorem passes_leaveOutWaiting {e : Expr} (hmark : ∀ w ∈ mark, q w.condition = true)
    (he : q e = true) : q (leaveOutWaiting mark e) = true := by
  cases mark with
  | none => exact he
  | some w => exact Partwise.group (Partwise.op .and nofun he (Partwise.not (hmark w rfl)))

theorem passes_statusAlternatives (f : EnrollmentFilter) (hstatus : q status = true)
    (hmark : ∀ w ∈ mark, q w.condition = true) :
    ∀ e ∈ statusAlternatives f status mark, q e = true := by
  refine List.forall_mem_append.mpr ⟨fun e he => ?_, fun e he => ?_⟩
  · obtain ⟨a, ha, rfl⟩ := Option.map_eq_some_iff.mp (Option.mem_toList.mp he)
    have hamong := passes_isAmong hstatus ha
    split
    · exact hamong
    · exact passes_leaveOutWaiting hmark hamong
  · cases List.mem_singleton.mp (mem_when.mp he).2
    exact Partwise.paren (passes_isWaiting hstatus hmark)

theorem passed_statusFilter (filter : Option EnrollmentFilter) (hstatus : q status = true)
    (hmark : ∀ w ∈ mark, q w.condition = true) : Passed q (statusFilter filter status mark) := by
  unfold statusFilter
  split
  · exact .nil
  · next f =>
    have halternatives := passes_statusAlternatives f hstatus hmark
    split
    · exact .nil
    · split
      · exact .nil
      · next e es hes =>
        rw [hes] at halternatives
        obtain ⟨he, hrest⟩ := List.forall_mem_cons.mp halternatives
        exact .singleton
          ⟨Partwise.paren (Partwise.joined_or (checks.inside he) (List.all_eq_true.mpr hrest)),
            rfl⟩

end EnrollmentColumns

/-! ## Sessions -/

namespace ClassroomSessions

variable {status : Expr}

theorem passed_statusFilter (filter : Option EnrollmentFilter) {waiting : Option Expr}
    (hstatus : q status = true) (hwaiting : ∀ mark ∈ waiting, q mark = true) :
    Passed q (statusFilter filter status waiting) := by
  have hiswaiting : q (.eq status EnrollmentStatus.waitingList.expr) = true :=
    Partwise.op .eq nofun hstatus (Partwise.bare rfl)
  unfold statusFilter
  split
  · exact .nil
  · next f =>
    split
    · exact .nil
    · dsimp only
      generalize hpicked : Option.map _ (EnrollmentColumns.isAmong status (pickedStatuses f)) =
        picked
      have hpasses : ∀ e ∈ picked, q e = true := by
        intro e he
        rw [← hpicked] at he
        obtain ⟨a, ha, rfl⟩ := Option.map_eq_some_iff.mp he
        have hamong := EnrollmentColumns.passes_isAmong hstatus ha
        cases waiting with
        | none => exact hamong
        | some mark =>
          exact Partwise.op .and nofun hamong
            (Partwise.op .eq nofun (hwaiting mark rfl) (Partwise.bare rfl))
      cases picked with
      | none => exact .singleton ⟨Partwise.group hiswaiting, rfl⟩
      | some e =>
        have he := hpasses e rfl
        cases f.waitingList with
        | true =>
          exact .singleton ⟨Partwise.paren (checks.or (checks.inside (Partwise.group he))
            (checks.inside (Partwise.group hiswaiting))), rfl⟩
        | false => exact .singleton ⟨Partwise.group he, rfl⟩

theorem passed_attendanceFilter (filter : Option AttendanceFilter) (h : q column = true) :
    Passed q (attendanceFilter filter column) := by
  unfold attendanceFilter
  split
  · exact .nil
  · split
    · exact .nil
    · split
      · exact .nil
      · next a rest _ =>
        have hrest : (rest.map (·.expr)).all q = true := by
          refine List.all_eq_true.mpr fun e he => ?_
          obtain ⟨a', -, rfl⟩ := List.mem_map.mp he
          exact Partwise.bare rfl
        exact .singleton ⟨Partwise.oneOf h (Partwise.bare rfl) hrest, rfl⟩

theorem passed_datesFilter {dates : Option SessionDates} {start finish : Expr}
    {anchor : Option Expr} (hdates : ∀ s ∈ dates, DateFilter.BoundsPass q (some s.start) ∧
      DateFilter.BoundsPass q (some s.finish)) (hstart : q start = true)
    (hfinish : q finish = true) (hanchor : ∀ a ∈ anchor, q a = true) :
    Passed q (datesFilter dates start finish anchor) := by
  unfold datesFilter
  split
  · exact .nil
  · next s =>
    obtain ⟨hsstart, hsfinish⟩ := hdates s rfl
    have hcombined : Passed q (DateFilter.combined s.conditions
        [(start, some s.start), (finish, some s.finish)]) :=
      DateFilter.passed_combined (.cons hstart hsstart (.singleton hfinish hsfinish))
    intro e he
    obtain ⟨a, ha, rfl⟩ := List.mem_map.mp he
    split
    · next b =>
      exact ⟨Partwise.paren (checks.or (checks.inside (Partwise.isNull (hanchor b rfl)))
        (checks.inside (hcombined a ha).1)), rfl⟩
    · exact hcombined a ha

theorem passed_taught (ctx : Context) : Passed q (taught ctx) := by
  have hinstructors : Passed Expr.isBare
      ((Selection.instructors ctx.definition).conditions (.name "id_user")) :=
    (Selection.instructors ctx.definition).passed rfl
  exact .when (.singleton ⟨Partwise.inSelect false (Partwise.bare rfl) rfl rfl
    (Partwise.joined .and nofun rfl hinstructors.all), rfl⟩)

theorem passed_sessionEnrollments (ctx : Context) : Passed q (sessionEnrollments ctx) :=
  ((ctx.filters.users.passed (Partwise.bare rfl)).append
    (ctx.filters.courses.passed (Partwise.bare rfl))).append (passed_taught ctx)

end ClassroomSessions

/-! ## Surveys and learning plans -/

theorem SurveyAnswers.passed_groupConditions (ctx : Context) : Passed q (groupConditions ctx) :=
  ((Selection.groups ctx.definition).passed (Partwise.bare rfl)).append
    (.singleton ⟨Partwise.bare rfl, rfl⟩)

theorem SurveyAnswers.passed_enrollmentConditions {ctx : Context}
    (h : ctx.definition.BoundsPass q) : Passed q (enrollmentConditions ctx) :=
  ((((ctx.filters.users.passed (Partwise.bare rfl)).append
    (ctx.passed_userFields (Partwise.bare rfl))).append
    (ctx.filters.courses.passed (Partwise.bare rfl))).append
    (Restrictions.passed_learners ctx (Partwise.bare rfl))).append
    (Restrictions.passed_enrollmentDates h)

theorem PlanStatistics.passed_planUsers {ctx : Context} (h : ctx.definition.BoundsPass q) :
    Passed q (planUsers ctx) :=
  (((ctx.filters.plans.passed (Partwise.bare rfl)).append
    (ctx.filters.users.passed (Partwise.bare rfl))).append
    (ctx.passed_userFields (Partwise.bare rfl))).append
    (DateFilter.passed_combined (.singleton (Partwise.bare rfl) h.enrollment))

end Conditions
end LearningReports
