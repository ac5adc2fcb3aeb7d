import LearningReports.Report.Columns.Custom
import LearningReports.Report.Columns.Usage
import LearningReports.Report.Columns.User
import LearningReports.Report.Restrictions

/-! # Users and their courses

One row for each enrollment, live or archived. -/
namespace LearningReports.UsersCourses

open Restrictions

def column? (f : Field) : Option Builder :=
  UserColumns.column? f <|> CourseColumns.column? f <|> EnrollmentColumns.column? f
    <|> UsageColumns.column? f

def customColumn : Context → ResolvedField → Column := CustomColumns.ofEnrollments

/-- The live enrollments. -/
def live (ctx : Context) : List Sql.Fragment :=
  sources ctx (enrollments ctx ++ enrollmentDates ctx) (courses ctx)
  ++ restrictAll (noVisitors
    :: EnrollmentColumns.statusFilter ctx.definition.enrollment (Table.enrollment.col "status")
      (EnrollmentColumns.liveMark (Table.enrollment.col "waiting")
        (Table.course.col "course_type")))

/-- The archived enrollments. -/
def archive (ctx : Context) : List Sql.Fragment :=
  Restrictions.archive :: restrictAll (archivedUsersAndCourses ctx
    ++ archivedLearners ctx
    ++ courseKind ((ctx.definition.courses.map (·.kind)).getD .all) (CourseColumns.archived "type")
    ++ archivedDates ctx
    ++ EnrollmentColumns.statusFilter ctx.definition.enrollment
      (archivedCol "enrollment_status") none)

def base (ctx : Context) : Base := { live := live ctx, archive := archive ctx }

end LearningReports.UsersCourses
