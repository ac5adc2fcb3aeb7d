import LearningReports.Catalog.ReportType

/-! # Report definitions

A saved report: its fields, filters, sort order and visibility. -/
namespace LearningReports

/-- An entity picked in a filter. Only branches have descendants. -/
structure SelectedItem where
  id : Int
  name : Option String := none
  descendants : Bool := false
  deriving Repr, DecidableEq

/-- Who may see a report. -/
inductive Audience where
  | administrators
  | powerUsers
  | selectedPowerUsers
  deriving Repr, DecidableEq

structure Visibility where
  audience : Option Audience := none
  users : List SelectedItem := []
  groups : List SelectedItem := []
  branches : List SelectedItem := []
  deriving Repr, DecidableEq

inductive SortSelector where
  | default
  | custom
  deriving Repr, DecidableEq

inductive SortDirection where
  | ascending
  | descending
  deriving Repr, DecidableEq

structure Sorting where
  selector : SortSelector := .default
  field : String := ""
  direction : SortDirection := .ascending
  deriving Repr, DecidableEq

inductive TimeFrame where
  | days
  | weeks
  | months
  deriving Repr, DecidableEq

structure PlanningOption where
  isPaused : Bool := false
  recipients : List String := []
  every : Int := 1
  timeFrame : TimeFrame := .days
  scheduleFrom : String := ""
  startHour : String := "00:00"
  timezone : String := ""
  deriving Repr, DecidableEq

structure Planning where
  active : Bool := false
  option : PlanningOption := {}
  deriving Repr, DecidableEq

/-- A restriction of a date; `isAny` switches it off. In a validated definition both bounds are
texts; an imported one keeps the values that it was given. -/
structure DateOption where
  isAny : Bool := true
  type : String := ""
  operator : String := ""
  days : Int := 1
  first : Json := .str ""
  last : Json := .str ""
  deriving Repr

structure Editor where
  idUser : Int := 0
  firstname : String := ""
  lastname : String := ""
  username : String := ""
  avatar : String := ""
  deriving Repr, DecidableEq

/-- The users of a report. A report on the caller's team names the types of managers that the
caller has to be. -/
structure UsersFilter where
  all : Bool := true
  users : List SelectedItem := []
  groups : List SelectedItem := []
  branches : List SelectedItem := []
  hideDeactivated : Bool := false
  showOnlyLearners : Bool := false
  hideExpired : Bool := false
  byCustomFields : Bool := false
  managerTypes : List Int := []
  deriving Repr, DecidableEq

/-- The types of courses that a filter keeps. -/
inductive CourseKind where
  | all
  | elearning
  | classroom
  deriving Repr, DecidableEq

structure CoursesFilter where
  all : Bool := true
  courses : List SelectedItem := []
  categories : List SelectedItem := []
  kind : CourseKind := .all
  instructors : List SelectedItem := []
  deriving Repr, DecidableEq

structure EntityFilter where
  all : Bool := true
  items : List SelectedItem := []
  deriving Repr, DecidableEq

structure AssetsFilter where
  all : Bool := true
  assets : List SelectedItem := []
  channels : List SelectedItem := []
  deriving Repr, DecidableEq

inductive EnrollmentScope where
  | active
  | archived
  | activeAndArchived
  deriving Repr, DecidableEq

/-- The enrollment states that a report keeps. -/
structure EnrollmentFilter where
  completed : Bool := true
  inProgress : Bool := true
  notStarted : Bool := true
  waitingList : Bool := true
  suspended : Bool := true
  toConfirm : Bool := true
  subscribed : Bool := true
  overbooking : Bool := true
  scope : EnrollmentScope := .active
  deriving Repr, DecidableEq

/-- How several date options combine. -/
inductive DateConditions where
  | all
  | atLeastOne
  deriving Repr, DecidableEq

structure SessionDates where
  conditions : DateConditions := .all
  start : DateOption := {}
  finish : DateOption := {}
  deriving Repr

structure AttendanceFilter where
  blended : Bool := true
  flexible : Bool := true
  fullOnline : Bool := true
  fullOnsite : Bool := true
  deriving Repr, DecidableEq

structure Definition where
  idReport : String
  type : ReportType
  title : String := ""
  description : String := ""
  creationDate : String := ""
  lastEdit : String := ""
  lastEditBy : Editor := {}
  author : Int := 0
  platform : String := ""
  standard : Bool := false
  timezone : String := ""
  visibility : Visibility := {}
  fields : List String := []
  sorting : Sorting := {}
  planning : Planning := {}
  conditions : DateConditions := .all
  users : Option UsersFilter := none
  courses : Option CoursesFilter := none
  sessions : Option EntityFilter := none
  learningPlans : Option EntityFilter := none
  surveys : Option EntityFilter := none
  assets : Option AssetsFilter := none
  enrollmentDate : Option DateOption := none
  completionDate : Option DateOption := none
  surveyCompletionDate : Option DateOption := none
  archivingDate : Option DateOption := none
  courseExpirationDate : Option DateOption := none
  publishedDate : Option DateOption := none
  enrollment : Option EnrollmentFilter := none
  /-- The option that each of some custom fields of the users has to have. -/
  userFieldOptions : List (Int × Int) := []
  sessionDates : Option SessionDates := none
  attendance : Option AttendanceFilter := none
  importedFrom : Option String := none
  deleted : Bool := false
  loginRequired : Bool := true
  deriving Repr

def Definition.withSorting (d : Definition) (s : Sorting) : Definition := { d with sorting := s }

def selectedIds (items : List SelectedItem) : List Int := items.map (·.id)

namespace EnrollmentFilter

/-- The flags of the states, in the order of the filter. -/
def flags (f : EnrollmentFilter) : List Bool := [f.completed, f.inProgress, f.notStarted,
  f.waitingList, f.suspended, f.toConfirm, f.subscribed, f.overbooking]

end EnrollmentFilter

end LearningReports
