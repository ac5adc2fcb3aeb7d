import LearningReports.Proofs.ColumnScopes

/-! # What columns ask for

Columns ask for joins under a key and for named queries under a name. For each type of report there
is one list of all such requests that its columns share. A custom field that has options asks for
one more join, under a short name of its own. -/
namespace LearningReports

open Sql (Expr Fragment)

namespace Sql

/-- What a fragment asks for by name. -/
inductive Tag where
  | join (key : String)
  | named (name : String)
  deriving Repr, DecidableEq

namespace Fragment

def tag? : Fragment → Option Tag
  | .join key _ => some (.join key)
  | .define name _ => some (.named name)
  | .select _ _ | .source _ | .groupBy _ | .restrict _ => none

/-- What a list has in the place of a fragment: its first request with the same tag, and the
fragment itself when it has none. -/
def agreed (fs : List Fragment) (f : Fragment) : Option Fragment :=
  if f.tag?.isSome then fs.find? (·.tag? == f.tag?) else some f

end Fragment
end Sql

/-! ## Shared requests -/

def valueJoin (values : Table) (column : String) (key : Expr) : Fragment :=
  values.leftJoin (.eq (values.col column) key)

def UserColumns.requests (ctx : Context) : List Fragment :=
  [joinByUser .userLevel "idUser", joinByUser .userBranchNames "idst",
    joinByUser .userBranches "idst"] ++ (directManager ctx).liveParts

def CourseColumns.requests (ctx : Context) : Side → List Fragment
  | .live => (category "code" ctx).liveParts ++ (language ctx).liveParts
    ++ skillParts ctx (Table.course.col "idCourse")
  | .archive => skillParts ctx (archivedCol "course_id")

def EnrollmentColumns.requests (ctx : Context) : List Fragment := (signatureHash ctx).liveParts

def UsageColumns.requests (ctx : Context) : List Fragment :=
  joinTracking :: (completion ctx).liveParts ++ (sessionTime ctx).liveParts

def enrollmentValues : List Fragment := [
  valueJoin .userFieldValue "id_user" (Table.enrollment.col "idUser"),
  valueJoin .courseFieldValue "id_course" (Table.enrollment.col "idCourse")]

namespace ReportType

/-- All requests that the columns of a type share, one for each key or name. -/
def requests (t : ReportType) (ctx : Context) : Side → List Fragment
  | .live => match t with
    | .usersCourses => UserColumns.requests ctx ++ CourseColumns.requests ctx .live
      ++ EnrollmentColumns.requests ctx ++ UsageColumns.requests ctx ++ enrollmentValues
    | .enrollmentTime => UserColumns.requests ctx ++ CourseColumns.requests ctx .live
      ++ EnrollmentColumns.requests ctx ++ enrollmentValues
    | .classroomSessions => UserColumns.requests ctx ++ CourseColumns.requests ctx .live
      ++ EnrollmentColumns.requests ctx
      ++ [ClassroomSessions.joinInstructor, ClassroomSessions.joinInstructors,
        ClassroomSessions.joinAttendance]
      ++ enrollmentValues
      ++ [valueJoin .sessionFieldValue "id_session" (ClassroomSessions.sessionCol "id_session")]
    | .surveyAnswers => (SurveyAnswers.groupOrBranch ctx).liveParts
      ++ (SurveyAnswers.trackingType ctx).liveParts ++ (SurveyAnswers.answer ctx).liveParts
      ++ [valueJoin .courseFieldValue "id_course" (Table.enrollment.col "idCourse"),
        .define Table.statedQuestion.name
          (.union [SurveyAnswers.plainQuestions, SurveyAnswers.scaleStatements])]
    | .assetStatistics => (AssetStatistics.channels ctx).liveParts
      ++ (AssetStatistics.publishedBy ctx).liveParts ++ (AssetStatistics.watchRate ctx).liveParts
      ++ [AssetStatistics.joinByAsset .assetAnswers "idContent",
        AssetStatistics.joinByAsset .assetLikes "idContent",
        AssetStatistics.joinByAsset .assetDislikes "idContent",
        AssetStatistics.joinByAsset .assetRating "idContent",
        AssetStatistics.joinByAsset .assetTotalViews "id",
        AssetStatistics.joinByAsset .assetBestAnswer "id",
        AssetStatistics.joinByAsset .assetQuestion "idContent",
        AssetStatistics.joinByAsset .assetHistory "idContent",
        AssetStatistics.joinByAsset .assetReactionTime "idContent"]
    | .planStatistics => (PlanStatistics.language ctx).liveParts
      ++ PlanStatistics.joinCourses :: PlanStatistics.joinProgress
      ++ [valueJoin .planFieldValue "id_path" (Table.plan.col "id_path")]
      ++ PlanStatistics.completionParts ctx
  | .archive => match t with
    | .usersCourses | .enrollmentTime | .classroomSessions => CourseColumns.requests ctx .archive
    | .surveyAnswers | .assetStatistics | .planStatistics => []

end ReportType

/-- On both sides, the column asks for what a list has and at most for one request of its own. -/
def Column.Asks (requests : Side → List Fragment) (own : Option Fragment) (c : Column) : Prop :=
  ∀ side, ∀ p ∈ c.parts side, p.agreed (requests side) = some p ∨ own = some p

theorem asks_column? (t : ReportType) {f : Field} {build : Builder}
    (h : t.column? f = some build) (ctx : Context) : (build ctx).Asks (t.requests ctx) none := by
  have hparts : ∀ side, ((build ctx).parts side).map (Fragment.agreed (t.requests ctx side)) =
      ((build ctx).parts side).map some := by
    intro side
    refine t.eq_of_map_builders
      (v := fun b => ((b ctx).parts side).map (Fragment.agreed (t.requests ctx side)))
      (w := fun b => ((b ctx).parts side).map some) h ?_
    cases t <;> cases side <;> rfl
  exact fun side p hp => .inl (List.map_inj_left.mp (hparts side) p hp)

/-! ## Requests of custom fields -/

namespace CustomColumns

/-- How the short names start under which the options of an entity's fields are joined. -/
def optionStarts : Entity → List String
  | .user => [Table.userFieldOption.handle, Table.country.handle]
  | .course => [Table.courseFieldOption.handle ++ "_" ++ Table.courseFieldValue.handle]
  | .enrollment => [Table.enrollmentFieldOption.handle]
  | .session => [Table.courseFieldOption.handle ++ "_" ++ Table.sessionFieldValue.handle]
  | .plan => [Table.courseFieldOption.handle ++ "_" ++ Table.planFieldValue.handle]

theorem entity_eq_of_mem_optionStarts : ∀ e ∈ Entity.all, ∀ e' ∈ Entity.all,
    ∀ start ∈ optionStarts e, start ∈ optionStarts e' → e = e' := by
  decide +kernel

/-- The join that a custom field with options asks for besides the values of its entity. -/
def optionJoin? (ctx : Context) (f : ResolvedField) : Option Fragment :=
  match f.field.entity with
  | .user => (user .null ctx f).liveParts.tail.head?
  | .course => (courseLike .courseFieldValue ctx f).2.head?
  | .enrollment => (enrollment ctx f).liveParts.head?
  | .session => (courseLike .sessionFieldValue ctx f).2.head?
  | .plan => (courseLike .planFieldValue ctx f).2.head?

variable {ctx : Context} {f : ResolvedField} {p : Fragment}

theorem liveParts_user (key : Expr) (h : f.field.entity = .user) :
    (user key ctx f).liveParts =
      valueJoin .userFieldValue "id_user" key :: (optionJoin? ctx f).toList := by
  unfold optionJoin?
  rw [h]
  unfold user
  cases kindOf f <;> rfl

theorem courseLike_snd (values : Table) (ctx : Context) (f : ResolvedField) :
    (courseLike values ctx f).2 = (courseLike values ctx f).2.head?.toList := by
  unfold courseLike
  cases kindOf f <;> rfl

theorem liveParts_keyed {values : Table} {column : String} {key archived : Expr}
    (h : (courseLike values ctx f).2.head? = optionJoin? ctx f) :
    (keyed values column key archived ctx f).liveParts =
      valueJoin values column key :: (optionJoin? ctx f).toList := by
  rw [← h, ← courseLike_snd]
  rfl

theorem liveParts_enrollment (h : f.field.entity = .enrollment) :
    (enrollment ctx f).liveParts = (optionJoin? ctx f).toList := by
  unfold optionJoin?
  rw [h]
  unfold enrollment
  cases kindOf f <;> rfl

theorem join_of_courseLike {values : Table} (h : (courseLike values ctx f).2.head? = some p) :
    ∃ ss, p = .join (aliasFor (Table.courseFieldOption.handle ++ "_" ++ values.handle) f) ss := by
  unfold courseLike at h
  cases hkind : kindOf f <;> rw [hkind] at h <;> cases h
  exact ⟨_, rfl⟩

theorem join_of_optionJoin? (h : optionJoin? ctx f = some p) :
    ∃ start ∈ optionStarts f.field.entity, ∃ ss, p = .join (aliasFor start f) ss := by
  unfold optionJoin? at h
  cases hentity : f.field.entity with
  | user =>
    rw [hentity] at h
    unfold user at h
    cases hkind : kindOf f <;> rw [hkind] at h <;> cases h
    · exact ⟨_, .head _, _, rfl⟩
    · exact ⟨_, .tail _ (.head _), _, rfl⟩
  | enrollment =>
    rw [hentity] at h
    unfold enrollment at h
    cases hkind : kindOf f <;> rw [hkind] at h <;> cases h
    exact ⟨_, .head _, _, rfl⟩
  | course | session | plan =>
    rw [hentity] at h
    exact ⟨_, .head _, join_of_courseLike h⟩

variable {shared : List Fragment} {values : Fragment} {own : Option Fragment}

theorem asked_values_own (hvalues : values.agreed shared = some values)
    (hp : p ∈ values :: own.toList) : p.agreed shared = some p ∨ own = some p := by
  rw [List.mem_cons, Option.mem_toList] at hp
  rcases hp with rfl | hown
  · exact .inl hvalues
  · exact .inr hown

theorem asked_user {key : Expr} (hentity : f.field.entity = .user)
    (hvalues : (valueJoin .userFieldValue "id_user" key).agreed shared =
      some (valueJoin .userFieldValue "id_user" key))
    (hp : p ∈ (user key ctx f).liveParts) :
    p.agreed shared = some p ∨ optionJoin? ctx f = some p := by
  rw [liveParts_user key hentity] at hp
  exact asked_values_own hvalues hp

theorem asked_keyed {t : Table} {column : String} {key archived : Expr}
    (hoptions : (courseLike t ctx f).2.head? = optionJoin? ctx f)
    (hvalues : (valueJoin t column key).agreed shared = some (valueJoin t column key))
    (hp : p ∈ (keyed t column key archived ctx f).liveParts) :
    p.agreed shared = some p ∨ optionJoin? ctx f = some p := by
  rw [liveParts_keyed hoptions] at hp
  exact asked_values_own hvalues hp

theorem asked_ofEnrollments
    (husers : (valueJoin .userFieldValue "id_user" (Table.enrollment.col "idUser")).agreed shared =
      some (valueJoin .userFieldValue "id_user" (Table.enrollment.col "idUser")))
    (hcourses : (valueJoin .courseFieldValue "id_course" (Table.enrollment.col "idCourse")).agreed
      shared = some (valueJoin .courseFieldValue "id_course" (Table.enrollment.col "idCourse")))
    (hp : p ∈ (ofEnrollments ctx f).liveParts) :
    p.agreed shared = some p ∨ optionJoin? ctx f = some p := by
  unfold ofEnrollments at hp
  cases hentity : f.field.entity <;> rw [hentity] at hp
  case user => exact asked_user hentity husers hp
  case course => exact asked_keyed (by rw [optionJoin?, hentity]) hcourses hp
  case enrollment =>
    rw [liveParts_enrollment hentity, Option.mem_toList] at hp
    exact .inr hp
  all_goals cases hp

theorem asks_customColumn (t : ReportType) (ctx : Context) (f : ResolvedField) :
    (t.customColumn ctx f).Asks (t.requests ctx) (optionJoin? ctx f) := by
  rintro (_ | _) p hp
  · change p ∈ (t.customColumn ctx f).liveParts at hp
    cases t with
    | usersCourses => exact asked_ofEnrollments rfl rfl hp
    | enrollmentTime => exact asked_ofEnrollments rfl rfl hp
    | assetStatistics => cases hp
    | classroomSessions =>
      change p ∈ (ClassroomSessions.customColumn ctx f).liveParts at hp
      unfold ClassroomSessions.customColumn at hp
      cases hentity : f.field.entity <;> rw [hentity] at hp
      case user => exact asked_user hentity rfl hp
      case course => exact asked_keyed (by rw [optionJoin?, hentity]) rfl hp
      case session => exact asked_keyed (by rw [optionJoin?, hentity]) rfl hp
      all_goals cases hp
    | surveyAnswers =>
      change p ∈ (SurveyAnswers.customColumn ctx f).liveParts at hp
      unfold SurveyAnswers.customColumn at hp
      cases hentity : f.field.entity <;> rw [hentity] at hp
      case course => exact asked_keyed (by rw [optionJoin?, hentity]) rfl hp
      all_goals cases hp
    | planStatistics =>
      change p ∈ (PlanStatistics.customColumn ctx f).liveParts at hp
      unfold PlanStatistics.customColumn at hp
      cases hentity : f.field.entity <;> rw [hentity] at hp
      case plan => exact asked_keyed (by rw [optionJoin?, hentity]) rfl hp
      all_goals cases hp
  · have harchive : (t.customColumn ctx f).archiveParts = [] :=
      (made_customColumn t ctx f).archive.1
    change p ∈ (t.customColumn ctx f).archiveParts at hp
    rw [harchive] at hp
    cases hp

end CustomColumns

/-! ## Requests of a report -/

/-- A column of a report asks for what its type shares, and at most for the options of one resolved
custom field. -/
theorem asks_of_mem_columns {ctx : Context} {key : String} {c : Column}
    (h : (key, c) ∈ Layout.columns ctx) : ∃ own, c.Asks (ctx.type.requests ctx) own ∧
      ∀ p, own = some p → ∃ r, lookup? key ctx.customFields = some r ∧
        CustomColumns.optionJoin? ctx r = some p := by
  obtain ⟨text, -, hfated⟩ := Layout.fated_of_mem_columns h
  cases hfated with
  | custom _ _ hr =>
    refine ⟨_, ?_, fun p hp => ⟨_, hr, hp⟩⟩
    unfold Layout.customColumn
    split
    · exact CustomColumns.asks_customColumn ctx.type ctx _
    · rintro (_ | _) p hp <;> cases hp
  | standard _ _ hb => exact ⟨none, asks_column? ctx.type hb ctx, nofun⟩

end LearningReports
