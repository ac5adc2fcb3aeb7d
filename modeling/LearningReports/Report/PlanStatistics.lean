import LearningReports.Report.Columns.Custom
import LearningReports.Report.Restrictions

/-! # Statistics of learning plans

One row for each learning plan with the numbers of its users by progress. -/
namespace LearningReports.PlanStatistics

open Restrictions
open Sql (Expr)

/-! ## Columns -/

def planCol (ctx : Context) (column : String) : Expr := ctx.col .plan column

def detail (column : String) : Builder := fun ctx => { live := planCol ctx column }

def time (column : String) : Builder := fun ctx => { live := ctx.time (planCol ctx column) }

def status : Builder := fun ctx =>
  let status := planCol ctx "status"
  { live := .caseOf [
      (.eq status (.int 0), ctx.wording .lpUnderMaintenance),
      (.eq status (.int 1), ctx.wording .lpPublished)]
      (.asText status) }

def language : Builder := fun ctx =>
  { live := ctx.col .language "lang_description"
    liveParts := [Table.language.leftJoin
      (.eq (Table.plan.col "lang_code") (Table.language.col "lang_code"))] }

def joinCourses : Sql.Fragment :=
  Table.planCourse.leftJoin (.eq (Table.planCourse.col "id_path") (Table.plan.col "id_path"))

/-- The number of courses of the plan; joined, they stand once for each user. -/
def courseCount (course : Expr) : Builder := fun _ =>
  { live := .aggregate .countDistinct course, liveParts := [joinCourses] }

/-- How far a user has come in a plan. -/
inductive Progress where
  | completed
  | inProgress
  | notStarted
  deriving Repr, DecidableEq

/-- What tells how far a user has come. -/
def joinProgress : List Sql.Fragment := [
  Table.planCompletedCourses.leftJoin (.and
    (.eq (Table.planCompletedCourses.col "idUser") (Table.planUser.col "idUser"))
    (.eq (Table.planCompletedCourses.col "idPath") (Table.planUser.col "id_path"))),
  Table.planCourseCount.leftJoin
    (.eq (Table.planCourseCount.col "id_path") (Table.planUser.col "id_path"))]

/-- The user has come so far. -/
def Progress.condition (p : Progress) : Expr :=
  let completed := Expr.call2 "COALESCE"
    (Table.planCompletedCourses.col "completedCoursesMandatory") (.int 0)
  let mandatory := Table.planCourseCount.col "coursesMandatory"
  match p with
  | .completed => .eq completed mandatory
  | .inProgress => .and (.gt completed (.int 0)) (.lt completed mandatory)
  | .notStarted => .and (.eq completed (.int 0)) (.gt mandatory (.int 0))

/-- The number of the users of the plan. -/
def enrolled : Expr := .aggregate .countDistinct (Table.planUser.col "idUser")

/-- The number of the users who have come so far. -/
def Progress.count (p : Progress) : Expr :=
  .aggregate .countDistinct (.whenever p.condition (Table.planUser.col "idUser"))

def enrolledUsers : Builder := fun _ => { live := enrolled }

def users (p : Progress) : Builder := fun _ => { live := p.count, liveParts := joinProgress }

/-- The users who have come so far, in percent of all. -/
def percentage (p : Progress) : Builder := fun _ =>
  { live := .caseOf
      [(.gt enrolled (.int 0), .call2 "ROUND"
        (.op .over (.op .times p.count (.word "100.0")) enrolled) (.int 2))]
      (.int 0)
    liveParts := joinProgress }

def column? : Field → Option Builder
  | .lpName => some (detail "path_name")
  | .lpCode => some (detail "path_code")
  | .lpCredits => some (detail "credits")
  | .lpUuid => some (detail "uuid")
  | .lpLastEdit => some (time "last_update")
  | .lpCreationDate => some (time "create_date")
  | .lpDescription => some (detail "path_descr")
  | .lpStatus => some status
  | .lpLanguage => some language
  | .lpAssociatedCourses => some (courseCount (Table.planCourse.col "id_item"))
  | .lpMandatoryAssociatedCourses =>
    some (courseCount (.whenever (.eq (Table.planCourse.col "is_required") (.int 1))
      (Table.planCourse.col "id_item")))
  | .statsPathEnrolledUsers => some enrolledUsers
  | .statsPathCompletedUsers => some (users .completed)
  | .statsPathCompletedUsersPercentage => some (percentage .completed)
  | .statsPathInProgressUsers => some (users .inProgress)
  | .statsPathInProgressUsersPercentage => some (percentage .inProgress)
  | .statsPathNotStartedUsers => some (users .notStarted)
  | .statsPathNotStartedUsersPercentage => some (percentage .notStarted)
  | _ => none

def customColumn (ctx : Context) (f : ResolvedField) : Column :=
  match f.field.entity with
  | .plan => CustomColumns.keyed .planFieldValue "id_path" (Table.plan.col "id_path") .null ctx f
  | .user | .course | .enrollment | .session => { live := .empty }

/-! ## Base -/

/-- The users who have completed every mandatory course of a plan, by the date of the last one. -/
def completions (ctx : Context) (completion : Expr) : Sql.Subselect :=
  let path := Table.planUser.col "id_path"
  let user := Table.planUser.col "idUser"
  let mandatory := Table.planCourseCount.col "coursesMandatory"
  let required := Table.planCourse.col "is_required"
  let course := Table.plainEnrollment.col "idCourse"
  let join (t : Table) (condition : Expr) : Sql.TableJoin := ⟨.inner, t.name, t.handle, condition⟩
  { items := [⟨path, some (.name "id_path")⟩, ⟨user, some (.name "idUser")⟩]
    table := Table.planUser.name
    handle := some Table.planUser.handle
    joins := [
      join .planCourse (.eq path (Table.planCourse.col "id_path")),
      join .plainEnrollment (.joined .and (.eq user (Table.plainEnrollment.col "idUser")) [
        .eq course (Table.planCourse.col "id_item"),
        .eq (Table.plainEnrollment.col "status") EnrollmentStatus.completed.expr]),
      join .planCourseCount
        (.eq (Table.planCourseCount.col "id_path") (Table.planCourse.col "id_path"))]
    conditions := .paren (.or (.eq required (.int 1)) (.isNull required))
      :: ctx.filters.plans.conditions path ++ ctx.filters.users.conditions user
    groupBy := [user, path, mandatory]
    having := [.eq mandatory (.aggregate .countDistinct course), completion] }

def userQuery (ctx : Context) : Sql.Subselect :=
  { items := [⟨.name "idst", none⟩], table := Table.user.name
    conditions := .ne (.name "userid") (.str visitor) :: userState ctx }

def planUsers (ctx : Context) : List Expr :=
  ctx.filters.plans.conditions (.name "id_path")
  ++ ctx.filters.users.conditions (.name "idUser")
  ++ ctx.userFieldConditions (.name "idUser")
  ++ ctx.dates [(.name "date_assign", ctx.definition.enrollmentDate)]

/-- Only users who have completed the plan at the right time, when the report asks for one. -/
def completionParts (ctx : Context) : List Sql.Fragment :=
  match DateFilter.condition? (.aggregate .max (Table.plainEnrollment.col "date_complete"))
      ctx.definition.completionDate with
  | none => []
  | some completion => [
    .define Table.planCompletion.name (.union [completions ctx completion]),
    Table.planCompletion.join (.and
      (.eq (Table.planCompletion.col "idUser") (Table.planUser.col "idUser"))
      (.eq (Table.planCompletion.col "id_path") (Table.planUser.col "id_path")))]

def base (ctx : Context) : Base :=
  { live := [
      Table.plan.rows (ctx.filters.plans.conditions (.name "id_path")),
      Table.planUser.joinRows (planUsers ctx)
        (.eq (Table.plan.col "id_path") (Table.planUser.col "id_path")),
      Table.user.joinQuery (userQuery ctx)
        (.eq (Table.user.col "idst") (Table.planUser.col "idUser"))]
      ++ completionParts ctx
      ++ [.groupBy [Table.plan.col "id_path"]] }

end LearningReports.PlanStatistics
