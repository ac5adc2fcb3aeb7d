import LearningReports.Report.Columns.Course
import LearningReports.Report.Columns.Enrollment

/-! # Restrictions of enrollment reports

The inner queries over users, courses and enrollments that several report types start from, and the
restrictions of the archive that correspond to them. -/
namespace LearningReports.Restrictions

open Sql (Expr)

/-- The name of the user that stands for visitors. -/
def visitor : String := "/Anonymous"

/-- The type of courses that a filter keeps. -/
def courseKind (kind : CourseKind) (type : Expr) : List Expr :=
  match kind with
  | .all => []
  | .elearning => [.eq type (.str "elearning")]
  | .classroom => [.eq type (.str "classroom")]

def learners (ctx : Context) (level : Expr) : List Expr :=
  when ctx.onlyLearners [.eq level (.int 3)]

def userState (ctx : Context) : List Expr :=
  when ctx.hidesDeactivated [.eq (.name "valid") (.int 1)]
  ++ when ctx.hidesExpired [.paren (.or (.isNull (.name "expiration"))
      (.gt (.name "expiration") (.moment .now)))]

/-- The conditions on users. -/
def users (ctx : Context) : List Expr :=
  ctx.userFieldConditions (.name "idst") ++ userState ctx

/-- The conditions on courses. -/
def courses (ctx : Context) : List Expr :=
  ctx.filters.courses.conditions (.name "idCourse")
  ++ courseKind ((ctx.definition.courses.map (·.kind)).getD .all) (.name "course_type")
  ++ ctx.dates [(.name "date_end", ctx.definition.courseExpirationDate)]

/-- The conditions on enrollments by their users, courses and levels. -/
def enrollments (ctx : Context) : List Expr :=
  ctx.filters.users.conditions (.name "idUser")
  ++ ctx.filters.courses.conditions (.name "idCourse")
  ++ learners ctx (.name "level")

def enrollmentDates (ctx : Context) : List Expr :=
  ctx.dates [(.name "date_inscr", ctx.definition.enrollmentDate),
    (.name "date_complete", ctx.definition.completionDate)]

def sources (ctx : Context) (enrollments courses : List Expr) : List Sql.Fragment := [
  Table.enrollment.rows enrollments,
  Table.user.joinRows (users ctx)
    (.eq (Table.user.col "idst") (Table.enrollment.col "idUser")),
  Table.course.joinRows courses
    (.eq (Table.course.col "idCourse") (Table.enrollment.col "idCourse"))]

def noVisitors : Expr := .ne (Table.user.col "userid") (.str visitor)

def archivedUsersAndCourses (ctx : Context) : List Expr :=
  ctx.filters.users.conditions (archivedCol "user_id")
  ++ ctx.userFieldConditions (archivedCol "user_id")
  ++ ctx.filters.courses.conditions (archivedCol "course_id")

def archivedLearners (ctx : Context) : List Expr := learners ctx (archivedCol "enrollment_level")

/-- The conditions on the dates of archived enrollments. -/
def archivedDates (ctx : Context) : List Expr :=
  ctx.dates [(CourseColumns.archivedEnd, ctx.definition.courseExpirationDate)]
  ++ ctx.dates [(archivedCol "enrollment_enrolled_at", ctx.definition.enrollmentDate),
    (archivedCol "enrollment_completed_at", ctx.definition.completionDate),
    (archivedCol "created_at", ctx.definition.archivingDate)]

/-- The archive as the first source of a branch. -/
def archive : Sql.Fragment :=
  .source (.first (.table Table.archivedEnrollment.name) Table.archivedEnrollment.handle)

end LearningReports.Restrictions
