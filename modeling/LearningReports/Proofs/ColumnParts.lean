import LearningReports.Proofs.Fates
import LearningReports.Proofs.Fragments

/-! # What columns add to a branch

The parts of a column are joins, grouping keys and named queries. No column selects, restricts or
starts a source by itself. -/
namespace LearningReports

open Sql (Expr Fragment)

def Sql.Fragment.isSupport : Fragment → Bool
  | .join _ _ | .groupBy _ | .define _ _ => true
  | .select _ _ | .source _ | .restrict _ => false

theorem Sql.Fragment.selected?_of_isSupport {f : Fragment} (h : f.isSupport = true) :
    f.selected? = none := by
  cases f <;> first | rfl | cases h

/-- All parts of a column are joins, grouping keys and named queries. -/
structure Column.Supported (c : Column) : Prop where
  live : c.liveParts.all Fragment.isSupport = true
  archive : c.archiveParts.all Fragment.isSupport = true

/-! ## Standard fields -/

theorem supported_column? (t : ReportType) {f : Field} {build : Builder}
    (h : t.column? f = some build) (ctx : Context) : (build ctx).Supported := by
  constructor
  case live =>
    refine t.eq_of_map_builders (v := fun b => (b ctx).liveParts.all Fragment.isSupport)
      (w := fun _ => true) h ?_
    cases t with
    | _ => rfl
  case archive =>
    refine t.eq_of_map_builders (v := fun b => (b ctx).archiveParts.all Fragment.isSupport)
      (w := fun _ => true) h ?_
    cases t with
    | _ => rfl

/-! ## Custom fields -/

namespace CustomColumns

/-- The column is one of those that are made for custom fields. -/
inductive Made (ctx : Context) (f : ResolvedField) : Column → Prop
  | user : Made ctx f (user (Table.enrollment.col "idUser") ctx f)
  | course : Made ctx f (course (Table.enrollment.col "idCourse") ctx f)
  | session : Made ctx f (keyed .sessionFieldValue "id_session"
      (ClassroomSessions.sessionCol "id_session") .empty ctx f)
  | plan : Made ctx f (keyed .planFieldValue "id_path" (Table.plan.col "id_path") .null ctx f)
  | enrollment (h : f.field.entity = .enrollment) : Made ctx f (enrollment ctx f)
  | empty : Made ctx f emptyColumn
  | unarchived : Made ctx f { live := .empty }

theorem made_ofEnrollments (ctx : Context) (f : ResolvedField) :
    Made ctx f (ofEnrollments ctx f) := by
  unfold ofEnrollments
  split
  · exact .user
  · exact .course
  · next h => exact .enrollment h
  · exact .empty
  · exact .empty

/-- Every type of report makes the columns of its custom fields in one of these ways. -/
theorem made_customColumn (t : ReportType) (ctx : Context) (f : ResolvedField) :
    Made ctx f (t.customColumn ctx f) := by
  cases t with
  | usersCourses => exact made_ofEnrollments ctx f
  | enrollmentTime => exact made_ofEnrollments ctx f
  | assetStatistics => exact .empty
  | classroomSessions =>
    change Made ctx f (ClassroomSessions.customColumn ctx f)
    unfold ClassroomSessions.customColumn
    cases f.field.entity with
    | user => exact .user
    | course => exact .course
    | session => exact .session
    | enrollment => exact .empty
    | plan => exact .empty
  | surveyAnswers =>
    change Made ctx f (SurveyAnswers.customColumn ctx f)
    unfold SurveyAnswers.customColumn
    cases f.field.entity with
    | course => exact .course
    | _ => exact .unarchived
  | planStatistics =>
    change Made ctx f (PlanStatistics.customColumn ctx f)
    unfold PlanStatistics.customColumn
    cases f.field.entity with
    | plan => exact .plan
    | _ => exact .unarchived

theorem supported_keyed (values : Table) (column : String) (key archived : Expr) (ctx : Context)
    (f : ResolvedField) : (keyed values column key archived ctx f).Supported := by
  unfold keyed courseLike
  dsimp only
  split <;> exact ⟨rfl, rfl⟩

theorem Made.supported {ctx : Context} {f : ResolvedField} {c : Column} (h : Made ctx f c) :
    c.Supported := by
  cases h with
  | user =>
    unfold CustomColumns.user
    dsimp only
    split <;> exact ⟨rfl, rfl⟩
  | course => exact supported_keyed ..
  | session => exact supported_keyed ..
  | plan => exact supported_keyed ..
  | enrollment =>
    unfold CustomColumns.enrollment
    dsimp only
    split <;> exact ⟨rfl, rfl⟩
  | empty => exact ⟨rfl, rfl⟩
  | unarchived => exact ⟨rfl, rfl⟩

end CustomColumns

/-! ## Columns of a report -/

/-- Every column of a report only joins, groups and names queries. -/
theorem supported_of_mem_columns {ctx : Context} {key : String} {c : Column}
    (h : (key, c) ∈ Layout.columns ctx) : c.Supported :=
  Layout.of_mem_columns (fun r => (CustomColumns.made_customColumn ctx.type ctx r).supported)
    ⟨rfl, rfl⟩ (fun hbuild => supported_column? ctx.type hbuild ctx) h

end LearningReports
