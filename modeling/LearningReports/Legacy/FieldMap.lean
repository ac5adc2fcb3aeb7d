import LearningReports.Catalog.ReportType
import LearningReports.Failure

/-! # Fields of legacy reports

Legacy reports name their fields section by section; each key stands for a field of the catalog.
Survey and learning plan reports cannot be imported. -/
namespace LearningReports.Legacy

/-- Keys and their fields. -/
abbrev FieldMap := List (String × Field)

namespace FieldMap

def user : FieldMap := [
  ("idst", .userId), ("userid", .userUserid), ("firstname", .userFirstname),
  ("lastname", .userLastname), ("fullname", .userFullname), ("email", .userEmail),
  ("email_status", .userEmailValidationStatus), ("level", .userLevel),
  ("valid", .userDeactivated), ("expiration", .userExpiration),
  ("suspend_date", .userSuspendDate), ("register_date", .userRegisterDate),
  ("lastenter", .userLastAccessDate)]

def course : FieldMap := [
  ("idCourse", .courseId), ("uidCourse", .courseUniqueId), ("code", .courseCode),
  ("name", .courseName), ("category", .courseCategoryName), ("status", .courseStatus),
  ("credits", .courseCredits), ("mediumTime", .courseDuration), ("course_type", .courseType),
  ("date_begin", .courseDateBegin), ("date_end", .courseDateEnd),
  ("create_date", .courseCreationDate), ("lang_code", .courseLanguage)]

def enrollment : FieldMap := [
  ("level", .courseuserLevel), ("date_inscr", .courseuserDateInscr),
  ("date_first_access", .courseuserDateFirstAccess),
  ("date_last_access", .courseuserDateLastAccess), ("date_complete", .courseuserDateComplete),
  ("status", .courseuserStatus), ("date_begin_validity", .courseuserDateBeginValidity),
  ("date_expire_validity", .courseuserDateExpireValidity),
  ("score_given", .courseuserScoreGiven), ("initial_score_given", .courseuserInitialScoreGiven),
  ("total_time_in_course", .statsTotalTimeInCourse),
  ("number_of_sessions", .statsTotalSessionsInCourse),
  ("completion_percentage", .statsUserCourseCompletionPercentage)]

def enrollmentTime : FieldMap := [
  ("level", .courseuserLevel), ("date_inscr", .courseuserDateInscr),
  ("status", .courseuserStatus), ("date_begin_validity", .courseuserDateBeginValidity),
  ("date_expire_validity", .courseuserExpirationDate), ("days_left", .courseuserDaysLeft)]

def session : FieldMap := [
  ("name", .sessionName), ("code", .sessionCode), ("uid_session", .sessionUniqueId),
  ("date_begin", .sessionStartDate), ("date_end", .sessionEndDate),
  ("score_base", .sessionEvaluationScoreBase), ("total_hours", .sessionTimeSession),
  ("min_enroll", .sessionMinimumEnrollments), ("max_enroll", .sessionMaximumEnrollments)]

def sessionEnrollment : FieldMap := [
  ("level", .enrollmentUserCourseLevel), ("date_inscr", .enrollmentDate),
  ("status", .enrollmentEnrollmentStatus),
  ("learningCourseuserSessions.evaluation_score", .enrollmentLearnerEvaluation),
  ("learningCourseuserSessions.evaluation_status", .enrollmentEvaluationStatus),
  ("learningCourseuserSessions.evaluation_text", .enrollmentInstructorFeedback),
  ("learningCourseuserSessions.attendance_hours", .enrollmentAttendance)]

def asset : FieldMap := [
  ("title", .assetName), ("channels", .channels), ("published_by", .publishedBy),
  ("publish_date", .publishedOn)]

def assetStatistics : FieldMap := [
  ("total_views", .totalViews), ("rating", .assetRating), ("watch_rate", .globalWatchRate),
  ("watched", .watched), ("not_watched", .notWatched), ("invited", .invitedPeople),
  ("reaction_time", .averageReactionTime), ("questions", .questions), ("answers", .answers),
  ("best_answers", .bestAnswers), ("likes", .answerLikes), ("dislikes", .answerDislikes)]

end FieldMap

/-- The sections of a type with their keys, in order. -/
def sections : ReportType → Outcome (List (String × FieldMap))
  | .usersCourses =>
    .ok [("user", .user), ("course", .course), ("enrollment", .enrollment)]
  | .classroomSessions => .ok [("user", .user), ("course", .course), ("session", .session),
      ("enrollment", .sessionEnrollment)]
  | .enrollmentTime =>
    .ok [("user", .user), ("course", .course), ("enrollment", .enrollmentTime)]
  | .assetStatistics => .ok [("asset", .asset), ("stat", .assetStatistics)]
  | .surveyAnswers | .planStatistics => .error .unsupported

end LearningReports.Legacy
