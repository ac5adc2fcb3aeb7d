import LearningReports.Catalog.Field
import LearningReports.Catalog.CustomField

/-! # Report types

What each type of report offers: its fields by category, the fields that are always there, the
field it is sorted by, the entities whose custom fields it can show, and the features that some
fields depend on. -/
namespace LearningReports

inductive ReportType where
  | usersCourses
  | classroomSessions
  | surveyAnswers
  | assetStatistics
  | planStatistics
  | enrollmentTime
  deriving Repr, DecidableEq

/-- Parts of the platform that can be switched on. -/
inductive Feature where
  | archivedEnrollments
  | electronicSignature
  | assignmentTypes
  | flow
  | flowForTeams
  | planEnhancement
  deriving Repr, DecidableEq

/-- The name of a feature among the platform's plugins and toggles. -/
def Feature.name : Feature → String
  | .archivedEnrollments => "toggleMultipleEnrollmentCompletions"
  | .electronicSignature => "esignature"
  | .assignmentTypes => "coursesAssignmentType"
  | .flow => "flow"
  | .flowForTeams => "flowMsTeams"
  | .planEnhancement => "toggleNewLearningPlanManagementAndReportEnhancement"

namespace ReportType

def name : ReportType → String
  | .usersCourses => "Users - Courses"
  | .classroomSessions => "Users - Classroom Sessions"
  | .surveyAnswers => "Surveys - Individual Answers"
  | .assetStatistics => "Assets - Statistics"
  | .planStatistics => "Learning plans - Users Statistics"
  | .enrollmentTime => "Users - Course Enrollment Time"

/-- All report types, in the order in which they are listed. -/
def all : List ReportType := [.usersCourses, .classroomSessions, .surveyAnswers, .assetStatistics,
  .planStatistics, .enrollmentTime]

theorem mem_all (t : ReportType) : t ∈ all := by cases t <;> decide

def named : List (String × ReportType) := all.map fun t => (t.name, t)

def ofName? (s : String) : Option ReportType := all.find? (·.name == s)

end ReportType

namespace Catalog

def userFields : List Field := [
  .userId, .userUserid, .userFirstname, .userLastname, .userFullname, .userEmail,
  .userEmailValidationStatus, .userLevel, .userDeactivated, .userExpiration, .userSuspendDate,
  .userRegisterDate, .userLastAccessDate, .userBranchName, .userBranchPath, .userBranchesCodes,
  .userDirectManager]

def courseFields : List Field := [
  .courseId, .courseUniqueId, .courseCode, .courseName, .courseCategoryCode, .courseCategoryName,
  .courseStatus, .courseCredits, .courseDuration, .courseType, .courseDateBegin, .courseDateEnd,
  .courseExpired, .courseCreationDate, .courseESignature, .courseLanguage, .courseSkills]

def enrollmentFields : List Field := [
  .courseuserLevel, .courseuserDateInscr, .courseuserDateFirstAccess, .courseuserDateLastAccess,
  .courseuserDateComplete, .courseuserStatus, .courseuserDateBeginValidity,
  .courseuserDateExpireValidity, .courseuserScoreGiven, .courseuserInitialScoreGiven,
  .courseESignatureHash, .courseuserAssignmentType, .enrollmentArchivingDate, .enrollmentArchived]

def usageFields : List Field := [
  .statsUserCourseCompletionPercentage, .statsTotalTimeInCourse, .statsTotalSessionsInCourse,
  .statsNumberOfActions, .statsSessionTime, .statsUserFlowYesNo, .statsUserCourseFlowPercentage,
  .statsUserCourseTimeSpentByFlow, .statsUserFlowMsTeamsYesNo,
  .statsUserCourseFlowMsTeamsPercentage, .statsUserCourseTimeSpentByFlowMsTeams,
  .statsCourseAccessFromMobile, .statsPercentageOfCourseFromMobile, .statsTimeSpentFromMobile]

def sessionFields : List Field := [
  .sessionName, .sessionCode, .sessionUniqueId, .sessionStartDate, .sessionEndDate,
  .sessionEvaluationScoreBase, .sessionTimeSession, .sessionInstructorUserids,
  .sessionInstructorFullnames, .sessionAttendanceType, .sessionMinimumEnrollments,
  .sessionMaximumEnrollments]

def sessionEnrollmentFields : List Field := [
  .enrollmentUserCourseLevel, .enrollmentDate, .enrollmentEnrollmentStatus,
  .courseuserDateComplete, .enrollmentUserSessionStatus, .enrollmentUserSessionSubscribeDate,
  .enrollmentUserSessionCompleteDate, .enrollmentEvaluationStatus, .enrollmentLearnerEvaluation,
  .enrollmentInstructorFeedback, .enrollmentAttendance, .courseESignatureHash,
  .enrollmentArchivingDate, .enrollmentArchived]

/-- The fields that exist only with archived enrollments. -/
def archiveGates : List (Field × Feature) := [
  (.enrollmentArchivingDate, .archivedEnrollments), (.enrollmentArchived, .archivedEnrollments)]

/-- The fields that exist only with electronic signatures. -/
def signatureGates : List (Field × Feature) := [
  (.courseESignature, .electronicSignature), (.courseESignatureHash, .electronicSignature)]

end Catalog

namespace ReportType

def categories : ReportType → List (String × List Field)
  | .usersCourses => [
    ("user", Catalog.userFields), ("course", Catalog.courseFields),
    ("enrollment", Catalog.enrollmentFields), ("usageStatistics", Catalog.usageFields)]
  | .classroomSessions => [
    ("user", Catalog.userFields), ("course", Catalog.courseFields),
    ("session", Catalog.sessionFields), ("enrollment", Catalog.sessionEnrollmentFields)]
  | .enrollmentTime => [
    ("user", Catalog.userFields), ("course", Catalog.courseFields),
    ("enrollment", [.courseuserLevel, .courseuserDateInscr, .courseuserStatus,
      .courseuserDateBeginValidity, .courseuserExpirationDate, .courseuserDaysLeft])]
  | .surveyAnswers => [
    ("user", [.userUserid, .userFirstname, .userLastname, .userFullname, .userEmail,
      .groupGroupOrBranchName]),
    ("course", [.courseId, .courseCode, .courseName, .courseType]),
    ("survey", [.surveyId, .surveyTitle, .surveyDescription, .surveyTrackingType,
      .surveyCompletionId, .surveyCompletionDate]),
    ("question", [.questionId, .question, .questionType, .questionMandatory, .answerUser])]
  | .assetStatistics => [
    ("asset", [.assetName, .channels, .publishedBy, .publishedOn]),
    ("statistics", [.answerDislikes, .answerLikes, .answers, .assetRating, .averageReactionTime,
      .bestAnswers, .globalWatchRate, .invitedPeople, .notWatched, .questions, .totalViews,
      .watched])]
  | .planStatistics => [
    ("learningPlan", [.lpName, .lpCode, .lpCredits, .lpUuid, .lpLastEdit, .lpCreationDate,
      .lpDescription, .lpAssociatedCourses, .lpMandatoryAssociatedCourses, .lpStatus,
      .lpLanguage]),
    ("statistics", [.statsPathEnrolledUsers, .statsPathCompletedUsers,
      .statsPathCompletedUsersPercentage, .statsPathInProgressUsers,
      .statsPathInProgressUsersPercentage, .statsPathNotStartedUsers,
      .statsPathNotStartedUsersPercentage])]

def mandatory : ReportType → List Field
  | .usersCourses | .enrollmentTime => [.userUserid, .courseName]
  | .classroomSessions => [.userUserid, .courseName, .sessionName]
  | .surveyAnswers => [.surveyTitle, .question, .answerUser]
  | .assetStatistics => [.assetName]
  | .planStatistics => [.lpName]

/-- The field that reports of the type are sorted by unless they say otherwise. -/
def defaultSort : ReportType → Field
  | .usersCourses | .classroomSessions | .enrollmentTime => .userUserid
  | .surveyAnswers => .surveyTitle
  | .assetStatistics => .assetName
  | .planStatistics => .lpName

/-- The entities whose custom fields the type can show. -/
def entities : ReportType → List Entity
  | .usersCourses | .enrollmentTime => [.user, .course, .enrollment]
  | .classroomSessions => [.user, .course, .session]
  | .surveyAnswers => [.course]
  | .assetStatistics => []
  | .planStatistics => [.plan]

theorem nodup_entities (t : ReportType) : t.entities.Nodup := by
  cases t <;> decide

def gates : ReportType → List (Field × Feature)
  | .usersCourses => Catalog.archiveGates ++ Catalog.signatureGates ++ [
    (.courseuserAssignmentType, .assignmentTypes), (.statsUserFlowYesNo, .flow),
    (.statsUserCourseFlowPercentage, .flow), (.statsUserCourseTimeSpentByFlow, .flow),
    (.statsUserFlowMsTeamsYesNo, .flowForTeams),
    (.statsUserCourseFlowMsTeamsPercentage, .flowForTeams),
    (.statsUserCourseTimeSpentByFlowMsTeams, .flowForTeams)]
  | .classroomSessions => Catalog.archiveGates ++ Catalog.signatureGates
  | .enrollmentTime => Catalog.signatureGates
  | .surveyAnswers | .assetStatistics => []
  | .planStatistics => [
    (.lpUuid, .planEnhancement), (.lpLastEdit, .planEnhancement),
    (.lpCreationDate, .planEnhancement), (.lpDescription, .planEnhancement),
    (.lpStatus, .planEnhancement), (.lpLanguage, .planEnhancement),
    (.lpAssociatedCourses, .planEnhancement), (.lpMandatoryAssociatedCourses, .planEnhancement)]

def gate? (t : ReportType) (f : Field) : Option Feature :=
  (t.gates.find? (·.1 == f)).map (·.2)

def fields (t : ReportType) : List Field := t.categories.flatMap (·.2)

def mandatoryIds (t : ReportType) : List String := t.mandatory.map Field.id

/-- Adds a text to a list that does not hold it. -/
def addNew (done : List String) (s : String) : List String :=
  if s ∈ done then done else done ++ [s]

/-- The mandatory fields, then the given ones without repetitions. -/
def withMandatory (t : ReportType) (selected : List String) : List String :=
  selected.foldl addNew t.mandatoryIds

theorem defaultSort_mem_mandatory (t : ReportType) : t.defaultSort ∈ t.mandatory := by
  cases t <;> decide

end ReportType

/-- A selectable field as the catalog shows it. -/
structure CatalogEntry where
  field : String
  labelKey : String
  mandatory : Bool
  custom : Bool
  category : String
  feature : Option Feature
  deriving Repr, DecidableEq

def ReportType.entries (t : ReportType) : List CatalogEntry :=
  t.categories.flatMap fun (category, fs) => fs.map fun f =>
    { field := f.id, labelKey := f.labelKey, mandatory := f ∈ t.mandatory, custom := false
      category := category, feature := t.gate? f }

end LearningReports
