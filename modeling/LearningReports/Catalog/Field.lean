/-! # Fields

Saved reports name fields by a stable id. Labels are not saved: each field has a key that the
directory turns into the language of the caller. -/
namespace LearningReports

/-- A column that a report can show. -/
inductive Field where
  | userId
  | userUserid
  | userFirstname
  | userLastname
  | userFullname
  | userEmail
  | userEmailValidationStatus
  | userLevel
  | userDeactivated
  | userExpiration
  | userSuspendDate
  | userRegisterDate
  | userLastAccessDate
  | userBranchName
  | userBranchPath
  | userBranchesCodes
  | userDirectManager
  | courseId
  | courseUniqueId
  | courseCode
  | courseName
  | courseCategoryCode
  | courseCategoryName
  | courseStatus
  | courseCredits
  | courseDuration
  | courseType
  | courseDateBegin
  | courseDateEnd
  | courseExpired
  | courseCreationDate
  | courseESignature
  | courseESignatureHash
  | courseLanguage
  | courseSkills
  | courseuserLevel
  | courseuserDateInscr
  | courseuserDateFirstAccess
  | courseuserDateLastAccess
  | courseuserDateComplete
  | courseuserStatus
  | courseuserDateBeginValidity
  | courseuserDateExpireValidity
  | courseuserScoreGiven
  | courseuserInitialScoreGiven
  | courseuserAssignmentType
  | courseuserExpirationDate
  | courseuserDaysLeft
  | enrollmentArchived
  | enrollmentArchivingDate
  | statsUserCourseCompletionPercentage
  | statsTotalTimeInCourse
  | statsTotalSessionsInCourse
  | statsNumberOfActions
  | statsSessionTime
  | statsUserFlowYesNo
  | statsUserCourseFlowPercentage
  | statsUserCourseTimeSpentByFlow
  | statsUserFlowMsTeamsYesNo
  | statsUserCourseFlowMsTeamsPercentage
  | statsUserCourseTimeSpentByFlowMsTeams
  | statsCourseAccessFromMobile
  | statsPercentageOfCourseFromMobile
  | statsTimeSpentFromMobile
  | sessionName
  | sessionCode
  | sessionEndDate
  | sessionEvaluationScoreBase
  | sessionTimeSession
  | sessionStartDate
  | sessionUniqueId
  | sessionInstructorUserids
  | sessionInstructorFullnames
  | sessionAttendanceType
  | sessionMinimumEnrollments
  | sessionMaximumEnrollments
  | enrollmentAttendance
  | enrollmentDate
  | enrollmentEnrollmentStatus
  | enrollmentEvaluationStatus
  | enrollmentInstructorFeedback
  | enrollmentLearnerEvaluation
  | enrollmentUserCourseLevel
  | enrollmentUserSessionStatus
  | enrollmentUserSessionSubscribeDate
  | enrollmentUserSessionCompleteDate
  | groupGroupOrBranchName
  | surveyId
  | surveyTitle
  | surveyDescription
  | surveyTrackingType
  | surveyCompletionId
  | surveyCompletionDate
  | questionId
  | question
  | questionType
  | questionMandatory
  | answerUser
  | assetName
  | channels
  | publishedBy
  | publishedOn
  | answerDislikes
  | answerLikes
  | answers
  | assetRating
  | averageReactionTime
  | bestAnswers
  | globalWatchRate
  | invitedPeople
  | notWatched
  | questions
  | totalViews
  | watched
  | lpName
  | lpCode
  | lpCredits
  | lpUuid
  | lpLastEdit
  | lpCreationDate
  | lpDescription
  | lpAssociatedCourses
  | lpMandatoryAssociatedCourses
  | lpStatus
  | lpLanguage
  | statsPathCompletedUsers
  | statsPathCompletedUsersPercentage
  | statsPathInProgressUsers
  | statsPathInProgressUsersPercentage
  | statsPathNotStartedUsers
  | statsPathNotStartedUsersPercentage
  | statsPathEnrolledUsers
  deriving Repr, DecidableEq

namespace Field

def id : Field → String
  | .userId => "user_id"
  | .userUserid => "user_userid"
  | .userFirstname => "user_firstname"
  | .userLastname => "user_lastname"
  | .userFullname => "user_fullname"
  | .userEmail => "user_email"
  | .userEmailValidationStatus => "user_email_validation_status"
  | .userLevel => "user_level"
  | .userDeactivated => "user_deactivated"
  | .userExpiration => "user_expiration"
  | .userSuspendDate => "user_suspend_date"
  | .userRegisterDate => "user_register_date"
  | .userLastAccessDate => "user_last_access_date"
  | .userBranchName => "user_branch_name"
  | .userBranchPath => "user_branch_path"
  | .userBranchesCodes => "user_branches_codes"
  | .userDirectManager => "user_direct_manager"
  | .courseId => "course_id"
  | .courseUniqueId => "course_unique_id"
  | .courseCode => "course_code"
  | .courseName => "course_name"
  | .courseCategoryCode => "course_category_code"
  | .courseCategoryName => "course_category"
  | .courseStatus => "course_status"
  | .courseCredits => "course_credits"
  | .courseDuration => "course_duration"
  | .courseType => "course_type"
  | .courseDateBegin => "course_date_begin"
  | .courseDateEnd => "course_date_end"
  | .courseExpired => "course_expired"
  | .courseCreationDate => "course_creation_date"
  | .courseESignature => "course_e_signature"
  | .courseESignatureHash => "course_e_signature_hash"
  | .courseLanguage => "course_language"
  | .courseSkills => "course_skills"
  | .courseuserLevel => "courseuser_level"
  | .courseuserDateInscr => "courseuser_date_inscr"
  | .courseuserDateFirstAccess => "courseuser_date_first_access"
  | .courseuserDateLastAccess => "courseuser_date_last_access"
  | .courseuserDateComplete => "courseuser_date_complete"
  | .courseuserStatus => "courseuser_status"
  | .courseuserDateBeginValidity => "courseuser_date_begin_validity"
  | .courseuserDateExpireValidity => "courseuser_date_expire_validity"
  | .courseuserScoreGiven => "courseuser_score_given"
  | .courseuserInitialScoreGiven => "courseuser_initial_score_given"
  | .courseuserAssignmentType => "courseuser_assignment_type"
  | .courseuserExpirationDate => "courseuser_expiration_date"
  | .courseuserDaysLeft => "courseuser_days_left"
  | .enrollmentArchived => "enrollment_archived"
  | .enrollmentArchivingDate => "enrollment_archiving_date"
  | .statsUserCourseCompletionPercentage => "stats_user_course_completion_percentage"
  | .statsTotalTimeInCourse => "stats_total_time_in_course"
  | .statsTotalSessionsInCourse => "stats_total_sessions_in_course"
  | .statsNumberOfActions => "stats_number_of_actions"
  | .statsSessionTime => "stats_session_time"
  | .statsUserFlowYesNo => "stats_user_flow_yes_no"
  | .statsUserCourseFlowPercentage => "stats_user_course_flow_percentage"
  | .statsUserCourseTimeSpentByFlow => "stats_user_course_time_spent_by_flow"
  | .statsUserFlowMsTeamsYesNo => "stats_user_flow_ms_teams_yes_no"
  | .statsUserCourseFlowMsTeamsPercentage => "stats_user_course_flow_ms_teams_percentage"
  | .statsUserCourseTimeSpentByFlowMsTeams => "stats_user_course_time_spent_by_flow_ms_teams"
  | .statsCourseAccessFromMobile => "stats_course_access_from_mobile"
  | .statsPercentageOfCourseFromMobile => "stats_percentage_of_course_from_mobile"
  | .statsTimeSpentFromMobile => "stats_time_spent_from_mobile"
  | .sessionName => "session_name"
  | .sessionCode => "session_code"
  | .sessionEndDate => "session_end_date"
  | .sessionEvaluationScoreBase => "session_evaluation_score_base"
  | .sessionTimeSession => "session_time_session"
  | .sessionStartDate => "session_start_date"
  | .sessionUniqueId => "session_unique_id"
  | .sessionInstructorUserids => "session_instructor_userids"
  | .sessionInstructorFullnames => "session_instructor_fullnames"
  | .sessionAttendanceType => "session_attendance_type"
  | .sessionMinimumEnrollments => "session_minimum_enrollments"
  | .sessionMaximumEnrollments => "session_maximum_enrollments"
  | .enrollmentAttendance => "enrollment_attendance"
  | .enrollmentDate => "enrollment_date"
  | .enrollmentEnrollmentStatus => "enrollment_enrollment_status"
  | .enrollmentEvaluationStatus => "enrollment_evaluation_status"
  | .enrollmentInstructorFeedback => "enrollment_instructor_feedback"
  | .enrollmentLearnerEvaluation => "enrollment_learner_evaluation"
  | .enrollmentUserCourseLevel => "enrollment_user_course_level"
  | .enrollmentUserSessionStatus => "enrollment_user_session_status"
  | .enrollmentUserSessionSubscribeDate => "enrollment_user_session_subscribe_date"
  | .enrollmentUserSessionCompleteDate => "enrollment_user_session_complete_date"
  | .groupGroupOrBranchName => "group_group_or_branch_name"
  | .surveyId => "survey_id"
  | .surveyTitle => "survey_title"
  | .surveyDescription => "survey_description"
  | .surveyTrackingType => "survey_tracking_type"
  | .surveyCompletionId => "survey_completion_id"
  | .surveyCompletionDate => "survey_completion_date"
  | .questionId => "question_id"
  | .question => "question"
  | .questionType => "question_type"
  | .questionMandatory => "question_mandatory"
  | .answerUser => "answer_user"
  | .assetName => "asset_name"
  | .channels => "channels"
  | .publishedBy => "published_by"
  | .publishedOn => "published_on"
  | .answerDislikes => "answer_dislikes"
  | .answerLikes => "answer_likes"
  | .answers => "answers"
  | .assetRating => "asset_rating"
  | .averageReactionTime => "average_reaction_time"
  | .bestAnswers => "best_answers"
  | .globalWatchRate => "global_watch_rate"
  | .invitedPeople => "invited_people"
  | .notWatched => "not_watched"
  | .questions => "questions"
  | .totalViews => "total_views"
  | .watched => "watched"
  | .lpName => "lp_name"
  | .lpCode => "lp_code"
  | .lpCredits => "lp_credits"
  | .lpUuid => "lp_uuid"
  | .lpLastEdit => "lp_last_edit"
  | .lpCreationDate => "lp_creation_date"
  | .lpDescription => "lp_description"
  | .lpAssociatedCourses => "lp_associated_courses"
  | .lpMandatoryAssociatedCourses => "lp_mandatory_associated_courses"
  | .lpStatus => "lp_status"
  | .lpLanguage => "lp_language"
  | .statsPathCompletedUsers => "stats_path_completed_users"
  | .statsPathCompletedUsersPercentage => "stats_path_completed_users_percentage"
  | .statsPathInProgressUsers => "stats_path_in_progress_users"
  | .statsPathInProgressUsersPercentage => "stats_path_in_progress_users_percentage"
  | .statsPathNotStartedUsers => "stats_path_not_started_users"
  | .statsPathNotStartedUsersPercentage => "stats_path_not_started_users_percentage"
  | .statsPathEnrolledUsers => "stats_path_enrolled_users"

def labelKey : Field → String
  | .userId => "User unique ID"
  | .userUserid => "Username"
  | .userFirstname => "First Name"
  | .userLastname => "Last Name"
  | .userFullname => "Fullname"
  | .userEmail => "Email"
  | .userEmailValidationStatus => "Email Validation Status"
  | .userLevel => "User Level"
  | .userDeactivated => "Deactivated"
  | .userExpiration => "User expiration date"
  | .userSuspendDate => "User Suspension Date"
  | .userRegisterDate => "User Creation Date"
  | .userLastAccessDate => "User last access date"
  | .userBranchName => "Branch name"
  | .userBranchPath => "Branch path"
  | .userBranchesCodes => "Branches Codes"
  | .userDirectManager => "Direct Manager"
  | .courseId => "Course Internal Id"
  | .courseUniqueId => "Course Unique ID"
  | .courseCode => "_COURSE_CODE"
  | .courseName => "_COURSE_NAME"
  | .courseCategoryCode => "Course Category Code"
  | .courseCategoryName => "Course Category"
  | .courseStatus => "Course Status"
  | .courseCredits => "_CREDITS"
  | .courseDuration => "Course duration"
  | .courseType => "Course Type"
  | .courseDateBegin => "Course Start Date"
  | .courseDateEnd => "_COURSE_END"
  | .courseExpired => "Course has expired"
  | .courseCreationDate => "Course Creation Date"
  | .courseESignature => "E-Signature"
  | .courseESignatureHash => "E-Signature Hash"
  | .courseLanguage => "Language"
  | .courseSkills => "Skills in course"
  | .courseuserLevel => "User Course Level"
  | .courseuserDateInscr => "Enrollment date"
  | .courseuserDateFirstAccess => "Course First Access Date"
  | .courseuserDateLastAccess => "Course Last Access Date"
  | .courseuserDateComplete => "Completion date"
  | .courseuserStatus => "Enrollment status"
  | .courseuserDateBeginValidity => "Enrollment Start Date"
  | .courseuserDateExpireValidity => "Enrollment End Date"
  | .courseuserScoreGiven => "Final score"
  | .courseuserInitialScoreGiven => "_COURSES_FILTER_SCORE_INIT"
  | .courseuserAssignmentType => "Assignment Type"
  | .courseuserExpirationDate => "Enrollment Expiration Date"
  | .courseuserDaysLeft => "Days Left"
  | .enrollmentArchived => "Archived Enrollment (Yes / No)"
  | .enrollmentArchivingDate => "Archive Date"
  | .statsUserCourseCompletionPercentage => "Course Progression (%)"
  | .statsTotalTimeInCourse => "Training Material Time (sec)"
  | .statsTotalSessionsInCourse => "_TH_USER_NUMBER_SESSION"
  | .statsNumberOfActions => "Number of Actions"
  | .statsSessionTime => "Session Time (min)"
  | .statsUserFlowYesNo => "Training Material Access from Flow"
  | .statsUserCourseFlowPercentage => "% of Training Material from Flow"
  | .statsUserCourseTimeSpentByFlow => "Time in Training Material from Flow"
  | .statsUserFlowMsTeamsYesNo => "Training Material Access From Flow for Microsoft Teams"
  | .statsUserCourseFlowMsTeamsPercentage => "% Of Training Material From Flow for Microsoft Teams"
  | .statsUserCourseTimeSpentByFlowMsTeams => "Time In Training Material From Flow for Microsoft Teams"
  | .statsCourseAccessFromMobile => "Training Material Access from Mobile App"
  | .statsPercentageOfCourseFromMobile => "% of Training Material from Mobile App"
  | .statsTimeSpentFromMobile => "Time in Training Material from Mobile App"
  | .sessionName => "Session name"
  | .sessionCode => "Session code"
  | .sessionEndDate => "Session End Date"
  | .sessionEvaluationScoreBase => "Evaluation score base"
  | .sessionTimeSession => "Time in Session"
  | .sessionStartDate => "Session date begin"
  | .sessionUniqueId => "Session Unique ID"
  | .sessionInstructorUserids => "Session Instructor Username"
  | .sessionInstructorFullnames => "Session Instructor Full Name"
  | .sessionAttendanceType => "Session Attendance Type"
  | .sessionMinimumEnrollments => "Session Minimum Enrollments"
  | .sessionMaximumEnrollments => "Session Maximum Enrollments"
  | .enrollmentAttendance => "_ATTENDANCE"
  | .enrollmentDate => "Enrollment date"
  | .enrollmentEnrollmentStatus => "Course Enrollment Status"
  | .enrollmentEvaluationStatus => "Evaluation Status"
  | .enrollmentInstructorFeedback => "Instructor Feedback"
  | .enrollmentLearnerEvaluation => "Learner Evaluation"
  | .enrollmentUserCourseLevel => "User Course Level"
  | .enrollmentUserSessionStatus => "Session Enrollment Status"
  | .enrollmentUserSessionSubscribeDate => "Session Enrollment Date"
  | .enrollmentUserSessionCompleteDate => "Session Completion Date"
  | .groupGroupOrBranchName => "Group/Branch Name"
  | .surveyId => "Survey ID"
  | .surveyTitle => "Survey Title"
  | .surveyDescription => "Survey Description"
  | .surveyTrackingType => "Survey Tracking Type"
  | .surveyCompletionId => "Survey Completion ID"
  | .surveyCompletionDate => "Survey Completion Date"
  | .questionId => "Question ID"
  | .question => "Question"
  | .questionType => "Question Type"
  | .questionMandatory => "Mandatory Question (Yes / No)"
  | .answerUser => "User Answer to Question (Text)"
  | .assetName => "Asset Name"
  | .channels => "Channels"
  | .publishedBy => "Published by"
  | .publishedOn => "Published on"
  | .answerDislikes => "Answers dislikes"
  | .answerLikes => "Answers likes"
  | .answers => "Answers"
  | .assetRating => "Asset rating"
  | .averageReactionTime => "Average reaction time"
  | .bestAnswers => "Best answers"
  | .globalWatchRate => "Global watch rate"
  | .invitedPeople => "Total invited people"
  | .notWatched => "Not watched"
  | .questions => "Questions"
  | .totalViews => "Total views"
  | .watched => "Watched"
  | .lpName => "Learning Plan Name"
  | .lpCode => "Learning Plan Code"
  | .lpCredits => "_CREDITS"
  | .lpUuid => "Learning Plan UUID"
  | .lpLastEdit => "Learning Plan Last Edit"
  | .lpCreationDate => "Learning Plan Creation Date"
  | .lpDescription => "Learning Plan Description"
  | .lpAssociatedCourses => "Number of Associated Courses"
  | .lpMandatoryAssociatedCourses => "Number of Mandatory Associated Courses"
  | .lpStatus => "Learning Plan Status"
  | .lpLanguage => "Learning Plan Language"
  | .statsPathCompletedUsers => "Completed User Status"
  | .statsPathCompletedUsersPercentage => "Completed User Status Percentage"
  | .statsPathInProgressUsers => "In Progress User Status"
  | .statsPathInProgressUsersPercentage => "In Progress User Status Percentage"
  | .statsPathNotStartedUsers => "Not Started User Status"
  | .statsPathNotStartedUsersPercentage => "Not Started User Status Percentage"
  | .statsPathEnrolledUsers => "Users Enrolled In Learning Plan"

/-- All of them, in the order of the catalog. -/
def all : List Field := [
  .userId, .userUserid, .userFirstname, .userLastname, .userFullname, .userEmail,
  .userEmailValidationStatus, .userLevel, .userDeactivated, .userExpiration, .userSuspendDate,
  .userRegisterDate, .userLastAccessDate, .userBranchName, .userBranchPath, .userBranchesCodes,
  .userDirectManager, .courseId, .courseUniqueId, .courseCode, .courseName, .courseCategoryCode,
  .courseCategoryName, .courseStatus, .courseCredits, .courseDuration, .courseType,
  .courseDateBegin, .courseDateEnd, .courseExpired, .courseCreationDate, .courseESignature,
  .courseESignatureHash, .courseLanguage, .courseSkills, .courseuserLevel, .courseuserDateInscr,
  .courseuserDateFirstAccess, .courseuserDateLastAccess, .courseuserDateComplete,
  .courseuserStatus, .courseuserDateBeginValidity, .courseuserDateExpireValidity,
  .courseuserScoreGiven, .courseuserInitialScoreGiven, .courseuserAssignmentType,
  .courseuserExpirationDate, .courseuserDaysLeft, .enrollmentArchived, .enrollmentArchivingDate,
  .statsUserCourseCompletionPercentage, .statsTotalTimeInCourse, .statsTotalSessionsInCourse,
  .statsNumberOfActions, .statsSessionTime, .statsUserFlowYesNo, .statsUserCourseFlowPercentage,
  .statsUserCourseTimeSpentByFlow, .statsUserFlowMsTeamsYesNo,
  .statsUserCourseFlowMsTeamsPercentage, .statsUserCourseTimeSpentByFlowMsTeams,
  .statsCourseAccessFromMobile, .statsPercentageOfCourseFromMobile, .statsTimeSpentFromMobile,
  .sessionName, .sessionCode, .sessionEndDate, .sessionEvaluationScoreBase, .sessionTimeSession,
  .sessionStartDate, .sessionUniqueId, .sessionInstructorUserids, .sessionInstructorFullnames,
  .sessionAttendanceType, .sessionMinimumEnrollments, .sessionMaximumEnrollments,
  .enrollmentAttendance, .enrollmentDate, .enrollmentEnrollmentStatus,
  .enrollmentEvaluationStatus, .enrollmentInstructorFeedback, .enrollmentLearnerEvaluation,
  .enrollmentUserCourseLevel, .enrollmentUserSessionStatus, .enrollmentUserSessionSubscribeDate,
  .enrollmentUserSessionCompleteDate, .groupGroupOrBranchName, .surveyId, .surveyTitle,
  .surveyDescription, .surveyTrackingType, .surveyCompletionId, .surveyCompletionDate,
  .questionId, .question, .questionType, .questionMandatory, .answerUser, .assetName, .channels,
  .publishedBy, .publishedOn, .answerDislikes, .answerLikes, .answers, .assetRating,
  .averageReactionTime, .bestAnswers, .globalWatchRate, .invitedPeople, .notWatched, .questions,
  .totalViews, .watched, .lpName, .lpCode, .lpCredits, .lpUuid, .lpLastEdit, .lpCreationDate,
  .lpDescription, .lpAssociatedCourses, .lpMandatoryAssociatedCourses, .lpStatus, .lpLanguage,
  .statsPathCompletedUsers, .statsPathCompletedUsersPercentage, .statsPathInProgressUsers,
  .statsPathInProgressUsersPercentage, .statsPathNotStartedUsers,
  .statsPathNotStartedUsersPercentage, .statsPathEnrolledUsers]

theorem mem_all (x : Field) : x ∈ all := by
  have helem : all.elem x = true := by
    cases x <;> rfl
  exact List.mem_of_elem_eq_true helem

def ofId? (s : String) : Option Field := all.find? (·.id == s)

theorem id_of_ofId? {s : String} {x : Field} (h : ofId? s = some x) : x.id = s := by
  simpa using List.find?_some h

end Field
end LearningReports
