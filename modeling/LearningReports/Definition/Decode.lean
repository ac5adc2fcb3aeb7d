import LearningReports.Definition.Named
import LearningReports.Validation.Decoder

/-! # Reading definitions

Every member can stand under its camel-case name or under its name with underscores; the first
wins. Members that a definition does not know are passed over. -/
namespace LearningReports.Decode

/-- A record whose issues speak of objects. -/
def record {α : Type} (d : Members → Checked α) : Decoder α := object .notObject d

def selectedItem : Decoder SelectedItem := record fun ms =>
  SelectedItem.mk
    <$> required ms "id" "id" int
    <*> optional ms "name" "name" (nullable text) none
    <*> optional ms "descendants" "descendants" bool false

/-- A list of selected entities, empty when missing. -/
def selection (ms : Members) (name alternative : String) : Checked (List SelectedItem) :=
  optional ms name alternative (list selectedItem) []

def visibility : Decoder Visibility := record fun ms =>
  Visibility.mk
    <$> optional ms "type" "type" (nullable (oneOfNumbered Audience.numbered)) none
    <*> selection ms "users" "users"
    <*> selection ms "groups" "groups"
    <*> selection ms "branches" "branches"

def sorting : Decoder Sorting := record fun ms =>
  Sorting.mk
    <$> optional ms "selector" "selector" (oneOf SortSelector.named) .default
    <*> optional ms "selectedField" "selected_field" text ""
    <*> optional ms "orderBy" "order_by" (oneOf SortDirection.named) .ascending

def planningOption : Decoder PlanningOption := record fun ms =>
  PlanningOption.mk
    <$> optional ms "isPaused" "is_paused" bool false
    <*> optional ms "recipients" "recipients" (list text) []
    <*> optional ms "every" "every" int 1
    <*> optional ms "timeFrame" "time_frame" (oneOf TimeFrame.named) .days
    <*> optional ms "scheduleFrom" "schedule_from" text ""
    <*> optional ms "startHour" "start_hour" text "00:00"
    <*> optional ms "timezone" "timezone" text ""

def planning : Decoder Planning := record fun ms =>
  Planning.mk
    <$> optional ms "active" "active" bool false
    <*> optional ms "option" "option" planningOption {}

/-- A text kept as a loosely typed value. -/
def bound : Decoder Json := fun v => (text v).map .str

def dateOption : Decoder DateOption := record fun ms =>
  DateOption.mk
    <$> optional ms "any" "any" bool true
    <*> optional ms "type" "type" text ""
    <*> optional ms "operator" "operator" text ""
    <*> optional ms "days" "days" int 1
    <*> optional ms "from" "from_" bound (.str "")
    <*> optional ms "to" "to" bound (.str "")

def editor : Decoder Editor := record fun ms =>
  Editor.mk
    <$> optional ms "idUser" "id_user" int 0
    <*> optional ms "firstname" "firstname" text ""
    <*> optional ms "lastname" "lastname" text ""
    <*> optional ms "username" "username" text ""
    <*> optional ms "avatar" "avatar" text ""

def usersFilter : Decoder UsersFilter := record fun ms =>
  UsersFilter.mk
    <$> optional ms "all" "all" bool true
    <*> selection ms "users" "users"
    <*> selection ms "groups" "groups"
    <*> selection ms "branches" "branches"
    <*> optional ms "hideDeactivated" "hide_deactivated" bool false
    <*> optional ms "showOnlyLearners" "show_only_learners" bool false
    <*> optional ms "hideExpiredUsers" "hide_expired_users" bool false
    <*> optional ms "isUserAddFields" "is_user_add_fields" bool false
    <*> optional ms "managerTypes" "manager_types" (list int) []

def coursesFilter : Decoder CoursesFilter := record fun ms =>
  CoursesFilter.mk
    <$> optional ms "all" "all" bool true
    <*> selection ms "courses" "courses"
    <*> selection ms "categories" "categories"
    <*> optional ms "courseType" "course_type" (oneOfNumbered CourseKind.numbered) .all
    <*> selection ms "instructors" "instructors"

def entityFilter (name alternative : String) : Decoder EntityFilter := record fun ms =>
  EntityFilter.mk
    <$> optional ms "all" "all" bool true
    <*> selection ms name alternative

def assetsFilter : Decoder AssetsFilter := record fun ms =>
  AssetsFilter.mk
    <$> optional ms "all" "all" bool true
    <*> selection ms "assets" "assets"
    <*> selection ms "channels" "channels"

def enrollmentFilter : Decoder EnrollmentFilter := record fun ms =>
  EnrollmentFilter.mk
    <$> optional ms "completed" "completed" bool true
    <*> optional ms "inProgress" "in_progress" bool true
    <*> optional ms "notStarted" "not_started" bool true
    <*> optional ms "waitingList" "waiting_list" bool true
    <*> optional ms "suspended" "suspended" bool true
    <*> optional ms "enrollmentsToConfirm" "enrollments_to_confirm" bool true
    <*> optional ms "subscribed" "subscribed" bool true
    <*> optional ms "overbooking" "overbooking" bool true
    <*> optional ms "enrollmentTypes" "enrollment_types"
      (oneOfNumbered EnrollmentScope.numbered) .active

def sessionDates : Decoder SessionDates := record fun ms =>
  SessionDates.mk
    <$> optional ms "conditions" "conditions" (oneOf DateConditions.named) .all
    <*> optional ms "startDate" "start_date" dateOption {}
    <*> optional ms "endDate" "end_date" dateOption {}

def attendanceFilter : Decoder AttendanceFilter := record fun ms =>
  AttendanceFilter.mk
    <$> optional ms "blended" "blended" bool true
    <*> optional ms "flexible" "flexible" bool true
    <*> optional ms "fullOnline" "full_online" bool true
    <*> optional ms "fullOnsite" "full_onsite" bool true

/-- A member that may be missing or null. -/
def maybe {α : Type} (ms : Members) (name alternative : String) (d : Decoder α) :
    Checked (Option α) :=
  optional ms name alternative (nullable d) none

def definition : Decoder Definition := record fun ms =>
  Definition.mk
    <$> required ms "idReport" "id_report" text
    <*> required ms "type" "type" (oneOf ReportType.named)
    <*> optional ms "title" "title" text ""
    <*> optional ms "description" "description" text ""
    <*> optional ms "creationDate" "creation_date" text ""
    <*> optional ms "lastEdit" "last_edit" text ""
    <*> optional ms "lastEditBy" "last_edit_by" editor {}
    <*> optional ms "author" "author" int 0
    <*> optional ms "platform" "platform" text ""
    <*> optional ms "standard" "standard" bool false
    <*> optional ms "timezone" "timezone" text ""
    <*> optional ms "visibility" "visibility" visibility {}
    <*> optional ms "fields" "fields" (list text) []
    <*> optional ms "sortingOptions" "sorting_options" sorting {}
    <*> optional ms "planning" "planning" planning {}
    <*> optional ms "conditions" "conditions" (oneOf DateConditions.named) .all
    <*> maybe ms "users" "users" usersFilter
    <*> maybe ms "courses" "courses" coursesFilter
    <*> maybe ms "sessions" "sessions" (entityFilter "sessions" "sessions")
    <*> maybe ms "learningPlans" "learning_plans" (entityFilter "learningPlans" "learning_plans")
    <*> maybe ms "surveys" "surveys" (entityFilter "surveys" "surveys")
    <*> maybe ms "assets" "assets" assetsFilter
    <*> maybe ms "enrollmentDate" "enrollment_date" dateOption
    <*> maybe ms "completionDate" "completion_date" dateOption
    <*> maybe ms "surveyCompletionDate" "survey_completion_date" dateOption
    <*> maybe ms "archivingDate" "archiving_date" dateOption
    <*> maybe ms "courseExpirationDate" "course_expiration_date" dateOption
    <*> maybe ms "publishedDate" "published_date" dateOption
    <*> maybe ms "enrollment" "enrollment" enrollmentFilter
    <*> optional ms "userAdditionalFieldsFilter" "user_additional_fields_filter" integerTable []
    <*> maybe ms "sessionDates" "session_dates" sessionDates
    <*> maybe ms "sessionAttendanceType" "session_attendance_type" attendanceFilter
    <*> maybe ms "importedFromLegacyId" "imported_from_legacy_id" text
    <*> optional ms "deleted" "deleted" bool false
    <*> optional ms "loginRequired" "login_required" bool true

end LearningReports.Decode
