import LearningReports.Catalog.ReportType
import LearningReports.Sql.Dialect

/-! # Traits of report types

Which engines can run a type of report, which filters it resolves, whether its rows are grouped and
whether it has a branch of archived enrollments. -/
namespace LearningReports

inductive FilterKind where
  | users
  | courses
  | plans
  | sessions
  | surveys
  | assets
  deriving Repr, DecidableEq

def FilterKind.name : FilterKind → String
  | .users => "users"
  | .courses => "courses"
  | .plans => "learning_plans"
  | .sessions => "sessions"
  | .surveys => "surveys"
  | .assets => "assets"

namespace ReportType

def engines : ReportType → List Sql.Dialect
  | .planStatistics => [.snowflake]
  | _ => [.athena, .snowflake]

/-- The filters of the type, in the order in which they are resolved. -/
def filterKinds : ReportType → List FilterKind
  | .usersCourses | .enrollmentTime => [.users, .courses]
  | .classroomSessions => [.users, .courses, .sessions]
  | .surveyAnswers => [.users, .courses, .surveys]
  | .assetStatistics => [.assets]
  | .planStatistics => [.users, .plans]

/-- The rows are grouped, so columns outside of aggregates stand for any row of their group. -/
def isGrouped : ReportType → Bool
  | .usersCourses | .enrollmentTime => false
  | .classroomSessions | .surveyAnswers | .assetStatistics | .planStatistics => true

/-- Archived enrollments can stand beside the live ones. -/
def supportsArchive : ReportType → Bool
  | .usersCourses | .classroomSessions => true
  | .surveyAnswers | .assetStatistics | .planStatistics | .enrollmentTime => false

end ReportType
end LearningReports
