/-! # Wordings

Computed columns show a fixed set of wordings, such as the names of enrollment states. Each has a
key that the directory turns into the language of the caller. -/
namespace LearningReports

/-- A label inside a computed column. -/
inductive Wording where
  | yes
  | no
  | userLevelUser
  | userLevelPoweruser
  | userLevelGodadmin
  | courseStatusPreparation
  | courseStatusEffective
  | courseTypeElearning
  | courseTypeClassroom
  | courseTypeWebinar
  | courseuserLevelStudent
  | courseuserLevelTutor
  | courseuserLevelTeacher
  | courseuserStatusWaitingList
  | courseuserStatusConfirmed
  | courseuserStatusEnrollmentsToConfirm
  | courseuserStatusSubscribed
  | courseuserStatusInProgress
  | courseuserStatusCompleted
  | courseuserStatusSuspended
  | courseuserStatusOverbooking
  | courseuserStatusEnrolled
  | evaluationStatusPassed
  | evaluationStatusFailed
  | assignmentTypeMandatory
  | assignmentTypeRequired
  | assignmentTypeRecommended
  | assignmentTypeOptional
  | sessionAttendanceTypeBlended
  | sessionAttendanceTypeFlexible
  | sessionAttendanceTypeFullonline
  | sessionAttendanceTypeFullonsite
  | localTracking
  | sharedTracking
  | choice
  | choiceMultiple
  | inlineChoice
  | extendedText
  | likertScale
  | lpUnderMaintenance
  | lpPublished
  deriving Repr, DecidableEq

namespace Wording

/-- The key under which the directory keeps a wording. -/
def labelKey : Wording → String
  | .yes => "_YES"
  | .no => "_NO"
  | .userLevelUser => "_DIRECTORY_/framework/level/user"
  | .userLevelPoweruser => "_DIRECTORY_/framework/level/admin"
  | .userLevelGodadmin => "_DIRECTORY_/framework/level/godadmin"
  | .courseStatusPreparation => "_CST_PREPARATION"
  | .courseStatusEffective => "_CST_CONFIRMED"
  | .courseTypeElearning => "E-Learning"
  | .courseTypeClassroom => "Classroom"
  | .courseTypeWebinar => "Webinar"
  | .courseuserLevelStudent => "_LEVEL_3"
  | .courseuserLevelTutor => "_LEVEL_4"
  | .courseuserLevelTeacher => "_LEVEL_6"
  | .courseuserStatusWaitingList => "_WAITING_USERS"
  | .courseuserStatusConfirmed => "_USER_STATUS_CONFIRMED"
  | .courseuserStatusEnrollmentsToConfirm => "Enrollments to confirm"
  | .courseuserStatusSubscribed => "Enrolled"
  | .courseuserStatusInProgress => "_USER_STATUS_BEGIN"
  | .courseuserStatusCompleted => "_USER_STATUS_END"
  | .courseuserStatusSuspended => "_USER_STATUS_SUSPEND"
  | .courseuserStatusOverbooking => "_USER_STATUS_OVERBOOKING"
  | .courseuserStatusEnrolled => "_USER_STATUS_SUBS"
  | .evaluationStatusPassed => "Passed"
  | .evaluationStatusFailed => "Failed"
  | .assignmentTypeMandatory => "Mandatory"
  | .assignmentTypeRequired => "Required"
  | .assignmentTypeRecommended => "Recommended"
  | .assignmentTypeOptional => "Optional"
  | .sessionAttendanceTypeBlended => "Blended"
  | .sessionAttendanceTypeFlexible => "Flexible"
  | .sessionAttendanceTypeFullonline => "Full Online"
  | .sessionAttendanceTypeFullonsite => "Full Onsite"
  | .localTracking => "Local tracking"
  | .sharedTracking => "Shared tracking"
  | .choice => "Single Choice"
  | .choiceMultiple => "Multiple Choice"
  | .inlineChoice => "Inline choice"
  | .extendedText => "_QUEST_EXTENDED_TEXT"
  | .likertScale => "Likert scale"
  | .lpUnderMaintenance => "Under Maintenance"
  | .lpPublished => "Published"

/-- All of them, in the order of the catalog. -/
def all : List Wording := [
  .yes, .no, .userLevelUser, .userLevelPoweruser, .userLevelGodadmin, .courseStatusPreparation,
  .courseStatusEffective, .courseTypeElearning, .courseTypeClassroom, .courseTypeWebinar,
  .courseuserLevelStudent, .courseuserLevelTutor, .courseuserLevelTeacher,
  .courseuserStatusWaitingList, .courseuserStatusConfirmed,
  .courseuserStatusEnrollmentsToConfirm, .courseuserStatusSubscribed,
  .courseuserStatusInProgress, .courseuserStatusCompleted, .courseuserStatusSuspended,
  .courseuserStatusOverbooking, .courseuserStatusEnrolled, .evaluationStatusPassed,
  .evaluationStatusFailed, .assignmentTypeMandatory, .assignmentTypeRequired,
  .assignmentTypeRecommended, .assignmentTypeOptional, .sessionAttendanceTypeBlended,
  .sessionAttendanceTypeFlexible, .sessionAttendanceTypeFullonline,
  .sessionAttendanceTypeFullonsite, .localTracking, .sharedTracking, .choice, .choiceMultiple,
  .inlineChoice, .extendedText, .likertScale, .lpUnderMaintenance, .lpPublished]

theorem mem_all (x : Wording) : x ∈ all := by
  cases x <;> decide

end Wording
end LearningReports
