import LearningReports.Proofs.ColumnOutlines
import LearningReports.Proofs.ResultColumns
import LearningReports.Proofs.Scopes

/-! # Scopes of columns

The base of a report introduces tables, and every column may use them. A column that needs more
tables joins them by itself, each before it is used. -/
namespace LearningReports

open Sql (Expr Fragment)

/-! ## Tables of a base -/

namespace ReportType

/-- The tables that the branches of a report always start with. -/
def knownTables : ReportType → Side → List Table
  | .usersCourses, .live | .enrollmentTime, .live => [.enrollment, .user, .course]
  | .usersCourses, .archive => [.archivedEnrollment]
  | .classroomSessions, .live => [.enrollment, .user, .course, .sessionEnrollment]
  | .classroomSessions, .archive => [.archivedEnrollment, .archivedSession]
  | .surveyAnswers, .live => [.group, .groupMember, .user, .enrollment, .course, .courseItem,
      .itemTrack, .surveyTrack, .survey, .surveyAnswer, .statedQuestion]
  | .assetStatistics, .live => [.asset, .assetChannel, .assetPublication]
  | .planStatistics, .live => [.plan, .planUser, .user]
  | .surveyAnswers, .archive | .assetStatistics, .archive | .planStatistics, .archive
  | .enrollmentTime, .archive => []

def known (t : ReportType) (side : Side) : List String := (t.knownTables side).map (·.handle)

/-- The short names that no join of a column may have: a report on plans can start with one more
table. -/
def reserved (t : ReportType) (side : Side) : List String :=
  Table.planCompletion.handle :: t.known side

def hasSide (t : ReportType) : Side → Bool
  | .live => true
  | .archive => t.supportsArchive

end ReportType

namespace Column

/-- On a side, the parts of the column name only known tables and their own, so does its
expression, and no join takes a reserved short name. -/
def fits (known reserved : List String) (side : Side) (c : Column) : Bool :=
  Fragment.areScoped known (c.parts side)
    && (c.on side).isScoped ((c.parts side).flatMap Fragment.handles ++ known)
    && (c.parts side).all fun f => f.key?.all fun key => !reserved.contains key

variable {known reserved : List String} {side : Side} {c : Column}

theorem fits_iff : c.fits known reserved side = true ↔
    Fragment.areScoped known (c.parts side) = true ∧
      (c.on side).isScoped ((c.parts side).flatMap Fragment.handles ++ known) = true ∧
      ∀ f ∈ c.parts side, ∀ key, f.key? = some key → key ∉ reserved := by
  simp only [fits, Bool.and_eq_true, List.all_eq_true, Option.all_eq_true, and_assoc,
    Bool.not_eq_true', List.contains_eq_mem, decide_eq_false_iff_not]

theorem fits_of_isScoped (h : (c.on side).isScoped known = true) (hparts : c.parts side = []) :
    c.fits known reserved side = true := by
  rw [fits_iff, hparts]
  exact ⟨rfl, h, nofun⟩

end Column

/-! ## Standard fields -/

theorem fits_sample : ∀ t ∈ ReportType.all, ∀ first ∈ [true, false], ∀ f ∈ Field.all,
    ∀ side ∈ [Side.live, .archive], t.hasSide side = true →
      ((t.column? f).all fun build =>
        (build (.sample t first)).fits (t.known side) (t.reserved side) side) = true := by
  intro t _
  cases t with
  | _ => decide +kernel

/-- Whether a column fits depends on nothing but the type of the report and the order of names. -/
theorem fits_eq_sample {ctx : Context} {f : Field} {build : Builder} {known reserved : List String}
    {side : Side} (h : ctx.type.column? f = some build) :
    (build ctx).fits known reserved side =
      (build (.sample ctx.type ctx.session.platform.firstNameFirst)).fits known reserved side := by
  refine ctx.type.eq_of_map_builders (v := fun b => (b ctx).fits known reserved side)
    (w := fun b => (b (.sample ctx.type ctx.session.platform.firstNameFirst)).fits
      known reserved side) h ?_
  obtain ⟨⟨id, type⟩, ⟨idUser, level, lang, langCode, timezone, platform⟩, labels, wordings,
    ⟨users, courses⟩, fields, conditions⟩ := ctx
  obtain ⟨url, language, code, plugins, toggles, first, assignments, limits⟩ := platform
  cases type <;> cases side <;> rcases courses with _ | _ | _ <;> rfl

theorem fits_column {ctx : Context} {f : Field} {build : Builder} {side : Side}
    (h : ctx.type.column? f = some build) (hside : ctx.type.hasSide side = true) :
    (build ctx).fits (ctx.type.known side) (ctx.type.reserved side) side = true := by
  have hbool (b : Bool) : b ∈ [true, false] := by
    cases b <;> decide
  have hsides : side ∈ [Side.live, .archive] := by
    cases side <;> decide
  have hsample := fits_sample ctx.type (ReportType.mem_all _)
    ctx.session.platform.firstNameFirst (hbool _) f (Field.mem_all f) side hsides hside
  rw [h] at hsample
  rw [fits_eq_sample h]
  exact hsample

/-! ## Custom fields -/

def endsInDigit (s : String) : Bool := s.toList.getLast?.any Char.isDigit

theorem endsInDigit_aliasFor (start : String) (f : ResolvedField) :
    endsInDigit (CustomColumns.aliasFor start f) = true := by
  have hne : Nat.toDigits 10 f.field.number ≠ [] := Nat.toDigits_ne_nil
  have hlast : (CustomColumns.aliasFor start f).toList.getLast? =
      some ((Nat.toDigits 10 f.field.number).getLast hne) := by
    rw [CustomColumns.aliasFor, String.toList_append]
    change ((start ++ "_").toList ++ f.field.number.repr.toList).getLast? = _
    rw [Nat.toList_repr, List.getLast?_append_of_ne_nil _ hne,
      List.getLast?_eq_getLast_of_ne_nil hne]
  rw [endsInDigit, hlast]
  exact Nat.isDigit_of_mem_toDigits (by decide) (by decide) (List.getLast_mem hne)

theorem not_endsInDigit_reserved (t : ReportType) (side : Side) :
    ∀ handle ∈ t.reserved side, endsInDigit handle = false := by
  cases t <;> cases side <;> decide

theorem aliasFor_not_mem_reserved (t : ReportType) (side : Side) (start : String)
    (f : ResolvedField) : CustomColumns.aliasFor start f ∉ t.reserved side := by
  intro hmem
  have hends := endsInDigit_aliasFor start f
  rw [not_endsInDigit_reserved t side _ hmem] at hends
  cases hends

section Custom

variable {known reserved : List String}

@[simp] theorem isScoped_value (ctx : Context) (e : Expr) :
    (ctx.value e).isScoped known = e.isScoped known := by
  unfold Context.value
  split <;> rfl

@[simp] theorem isScoped_yesNo (ctx : Context) (e : Expr) :
    (ctx.yesNo e).isScoped known = e.isScoped known := by
  simp [Context.yesNo, Context.wording, Expr.caseOf, Expr.arms, Expr.isScoped]

theorem fits_of_join {t : Table} {condition live archived : Expr} (ht : t.handle ∉ reserved)
    (hcondition : condition.isScoped (t.handle :: known) = true)
    (hlive : live.isScoped (t.handle :: known) = true) :
    Column.fits known reserved .live
      { live := live, archived := archived, liveParts := [t.leftJoin condition] } = true := by
  have hjoin : Fragment.areScoped known [t.leftJoin condition] = true := by
    simpa [Fragment.areScoped, Fragment.isScoped, Table.leftJoin, Sql.Source.handle?,
      Sql.Source.leftJoin, Sql.Source.isScoped, Sql.Relation.isScoped] using hcondition
  rw [Column.fits_iff]
  refine ⟨hjoin, hlive, fun f hf key hkey => ?_⟩
  cases List.mem_singleton.mp hf
  cases hkey
  exact ht

theorem fits_of_joins {t o : Table} {handle : String} {condition option live archived : Expr}
    (ht : t.handle ∉ reserved) (ho : handle ∉ reserved)
    (hcondition : condition.isScoped (t.handle :: known) = true)
    (hoption : option.isScoped (handle :: t.handle :: known) = true)
    (hlive : live.isScoped (handle :: t.handle :: known) = true) :
    Column.fits known reserved .live
      { live := live, archived := archived
        liveParts := [t.leftJoin condition, o.leftJoinAs handle option] } = true := by
  have hjoins : Fragment.areScoped known
      [t.leftJoin condition, o.leftJoinAs handle option] = true := by
    simp [Fragment.areScoped, Fragment.isScoped, Table.leftJoin, Table.leftJoinAs,
      Sql.Source.handle?, Sql.Source.leftJoin, Sql.Source.isScoped, Sql.Relation.isScoped,
      Fragment.handles, Fragment.sources, hcondition, hoption]
  have hswap : handle :: t.handle :: known ⊆ [t.handle, handle] ++ known := by
    intro h hmem
    simpa [or_left_comm] using hmem
  rw [Column.fits_iff]
  refine ⟨hjoins, Expr.isScoped_mono hswap hlive, fun f hf key hkey => ?_⟩
  rcases List.mem_cons.mp hf with rfl | hf
  · cases hkey
    exact ht
  · cases List.mem_singleton.mp hf
    cases hkey
    exact ho

theorem isScoped_handle (handle column : String) (known : List String) :
    (Expr.col handle column).isScoped (handle :: known) = true := by
  simp [Expr.isScoped]

theorem isScoped_eq {a b : Expr} (ha : a.isScoped known = true) (hb : b.isScoped known = true) :
    (Expr.eq a b).isScoped known = true :=
  (Bool.and_eq_true _ _).mpr ⟨ha, hb⟩

theorem isScoped_more {e : Expr} (handle : String) (h : e.isScoped known = true) :
    e.isScoped (handle :: known) = true :=
  Expr.isScoped_mono (List.subset_cons_self _ _) h

theorem isScoped_option (ctx : Context) {handle : String} {stored : Expr}
    (h : stored.isScoped known = true) :
    (Expr.and (.eq (.col handle "id_option") stored)
      (.eq (.col handle "lang_code") ctx.language)).isScoped (handle :: known) = true :=
  (Bool.and_eq_true _ _).mpr ⟨isScoped_eq (isScoped_handle ..) (isScoped_more handle h),
    isScoped_eq (isScoped_handle ..) rfl⟩

variable {t : ReportType}

theorem fits_user {key : Expr} (hkey : key.isScoped (t.known .live) = true)
    (ht : Table.userFieldValue.handle ∉ t.reserved .live) (ctx : Context) (f : ResolvedField) :
    (CustomColumns.user key ctx f).fits (t.known .live) (t.reserved .live) .live = true := by
  have hstored : (CustomColumns.valueCol .userFieldValue f).isScoped
      (Table.userFieldValue.handle :: t.known .live) = true := isScoped_handle ..
  have hjoined : (Expr.eq (Table.userFieldValue.col "id_user") key).isScoped
      (Table.userFieldValue.handle :: t.known .live) = true :=
    isScoped_eq (isScoped_handle ..) (isScoped_more _ hkey)
  have halias (start : String) := aliasFor_not_mem_reserved t .live start f
  unfold CustomColumns.user
  dsimp only
  split
  · exact fits_of_join ht hjoined (by simpa [Expr.isScoped] using hstored)
  · refine fits_of_joins ht (halias _) hjoined (isScoped_option ctx hstored) ?_
    rw [isScoped_value]
    exact isScoped_handle ..
  · refine fits_of_join ht hjoined ?_
    simp [Expr.caseOf, Expr.arms, Expr.eq, Expr.empty, Expr.isScoped, Context.wording, hstored]
  · refine fits_of_joins ht (halias _) hjoined
      (isScoped_eq (isScoped_handle ..) (isScoped_more _ hstored)) ?_
    rw [isScoped_value]
    exact isScoped_handle ..
  · exact fits_of_join ht hjoined (by simpa using hstored)
  · exact fits_of_join ht hjoined rfl

theorem fits_keyed {values : Table} {column : String} {key archived : Expr}
    (hkey : key.isScoped (t.known .live) = true) (ht : values.handle ∉ t.reserved .live)
    (ctx : Context) (f : ResolvedField) :
    (CustomColumns.keyed values column key archived ctx f).fits (t.known .live)
      (t.reserved .live) .live = true := by
  have hstored : (CustomColumns.valueCol values f).isScoped
      (values.handle :: t.known .live) = true := isScoped_handle ..
  have hjoined : (Expr.eq (values.col column) key).isScoped
      (values.handle :: t.known .live) = true :=
    isScoped_eq (isScoped_handle ..) (isScoped_more _ hkey)
  unfold CustomColumns.keyed CustomColumns.courseLike
  dsimp only
  split
  · exact fits_of_join ht hjoined (by simpa [Expr.isScoped] using hstored)
  · refine fits_of_joins ht (aliasFor_not_mem_reserved t .live _ f) hjoined
      (isScoped_option ctx hstored) ?_
    rw [isScoped_value]
    exact isScoped_handle ..
  · exact fits_of_join ht hjoined (by simpa [Expr.eq, Expr.isScoped] using hstored)
  · exact fits_of_join ht hjoined (by simpa using hstored)
  · exact fits_of_join ht hjoined rfl
  · exact fits_of_join ht hjoined rfl

theorem fits_enrollment (h : Table.enrollment.handle ∈ t.known .live) (ctx : Context)
    (f : ResolvedField) :
    (CustomColumns.enrollment ctx f).fits (t.known .live) (t.reserved .live) .live = true := by
  have hstored : (Expr.apply (.field (toString f.field.number))
      (Table.enrollment.col "enrollment_fields")).isScoped (t.known .live) = true :=
    List.contains_iff_mem.mpr h
  unfold CustomColumns.enrollment
  dsimp only
  split
  · have halias := aliasFor_not_mem_reserved t .live Table.enrollmentFieldOption.handle f
    refine fits_of_join
      (t := ⟨Table.enrollmentFieldOption.name,
        CustomColumns.aliasFor Table.enrollmentFieldOption.handle f⟩) halias
      (isScoped_eq (isScoped_handle ..) (isScoped_more _ hstored)) ?_
    simp [Expr.isScoped]
  · refine Column.fits_of_isScoped ?_ rfl
    change (ctx.value _).isScoped _ = true
    rw [isScoped_value]
    exact hstored

theorem fits_ofEnrollments (hkey : Table.enrollment.handle ∈ t.known .live)
    (huser : Table.userFieldValue.handle ∉ t.reserved .live)
    (hcourse : Table.courseFieldValue.handle ∉ t.reserved .live) (ctx : Context)
    (f : ResolvedField) :
    (CustomColumns.ofEnrollments ctx f).fits (t.known .live) (t.reserved .live) .live = true := by
  have hscoped (column : String) : (Table.enrollment.col column).isScoped (t.known .live) = true :=
    List.contains_iff_mem.mpr hkey
  unfold CustomColumns.ofEnrollments
  split
  · exact fits_user (hscoped _) huser ctx f
  · exact fits_keyed (hscoped _) hcourse ctx f
  · exact fits_enrollment hkey ctx f
  · exact Column.fits_of_isScoped rfl rfl
  · exact Column.fits_of_isScoped rfl rfl

theorem CustomColumns.Made.archive {ctx : Context} {f : ResolvedField} {c : Column}
    (h : Made ctx f c) : c.archiveParts = [] ∧ c.archived.isScoped [] = true := by
  cases h with
  | user =>
    unfold CustomColumns.user
    dsimp only
    split <;> exact ⟨rfl, rfl⟩
  | course => exact ⟨rfl, rfl⟩
  | session => exact ⟨rfl, rfl⟩
  | plan => exact ⟨rfl, rfl⟩
  | enrollment =>
    unfold CustomColumns.enrollment
    dsimp only
    split <;> exact ⟨rfl, rfl⟩
  | empty => exact ⟨rfl, rfl⟩
  | unarchived => exact ⟨rfl, rfl⟩

theorem fits_customColumn (t : ReportType) (side : Side) (ctx : Context) (f : ResolvedField) :
    (t.customColumn ctx f).fits (t.known side) (t.reserved side) side = true := by
  cases side with
  | archive =>
    obtain ⟨hparts, harchived⟩ := (CustomColumns.made_customColumn t ctx f).archive
    exact Column.fits_of_isScoped (Expr.isScoped_mono (List.nil_subset _) harchived) hparts
  | live =>
    cases t with
    | usersCourses => exact fits_ofEnrollments (by decide) (by decide) (by decide) ctx f
    | enrollmentTime => exact fits_ofEnrollments (by decide) (by decide) (by decide) ctx f
    | assetStatistics => exact Column.fits_of_isScoped rfl rfl
    | classroomSessions =>
      change (ClassroomSessions.customColumn ctx f).fits _ _ _ = true
      unfold ClassroomSessions.customColumn
      cases f.field.entity with
      | user => exact fits_user (by decide) (by decide) ctx f
      | course => exact fits_keyed (by decide) (by decide) ctx f
      | session => exact fits_keyed (by decide) (by decide) ctx f
      | enrollment => exact Column.fits_of_isScoped rfl rfl
      | plan => exact Column.fits_of_isScoped rfl rfl
    | surveyAnswers =>
      change (SurveyAnswers.customColumn ctx f).fits _ _ _ = true
      unfold SurveyAnswers.customColumn
      cases f.field.entity with
      | course => exact fits_keyed (by decide) (by decide) ctx f
      | _ => exact Column.fits_of_isScoped rfl rfl
    | planStatistics =>
      change (PlanStatistics.customColumn ctx f).fits _ _ _ = true
      unfold PlanStatistics.customColumn
      cases f.field.entity with
      | plan => exact fits_keyed (by decide) (by decide) ctx f
      | _ => exact Column.fits_of_isScoped rfl rfl

end Custom

/-! ## Columns of a report -/

/-- Every column of a report names only the tables of the base and those that it joins. -/
theorem fits_of_mem_columns {ctx : Context} {key : String} {c : Column} {side : Side}
    (h : (key, c) ∈ Layout.columns ctx) (hside : ctx.type.hasSide side = true) :
    c.fits (ctx.type.known side) (ctx.type.reserved side) side = true := by
  have hempty : CustomColumns.emptyColumn.fits (ctx.type.known side) (ctx.type.reserved side) side =
      true := by
    cases side with
    | _ => exact Column.fits_of_isScoped rfl rfl
  exact Layout.of_mem_columns (motive := fun c => c.fits _ _ side = true)
    (fits_customColumn ctx.type side ctx) hempty (fits_column · hside) h

end LearningReports
