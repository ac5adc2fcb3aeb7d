import LearningReports.Definition.Basic
import LearningReports.Selection.IdFilter

/-! # Lists of entities by name

A list of entities is found by the name of a filter and the name of the list in it. A name that no
definition knows restricts nothing; the name of something else fails. -/
namespace LearningReports.Selection

/-- What an entity filter holds under a name. -/
inductive Holding where
  | entities (items : List SelectedItem)
  | numbers (ns : List Int)
  /-- One value that is no list. -/
  | single
  deriving Repr, DecidableEq

/-- An entity filter with its holdings by name; `all` restricts nothing. -/
structure NamedFilter where
  all : Bool
  holdings : List (String × Holding)
  deriving Repr, DecidableEq

def namedUsers (f : UsersFilter) : NamedFilter :=
  { all := f.all
    holdings := [
      ("all", .single), ("users", .entities f.users), ("groups", .entities f.groups),
      ("branches", .entities f.branches), ("hide_deactivated", .single),
      ("show_only_learners", .single), ("hide_expired_users", .single),
      ("is_user_add_fields", .single), ("manager_types", .numbers f.managerTypes)] }

def namedCourses (f : CoursesFilter) : NamedFilter :=
  { all := f.all
    holdings := [
      ("all", .single), ("courses", .entities f.courses), ("categories", .entities f.categories),
      ("course_type", .single), ("instructors", .entities f.instructors)] }

/-- A filter that is one list, which has the name of the filter. -/
def namedEntities (name : String) (f : EntityFilter) : NamedFilter :=
  { all := f.all, holdings := [("all", .single), (name, .entities f.items)] }

def namedAssets (f : AssetsFilter) : NamedFilter :=
  { all := f.all
    holdings := [
      ("all", .single), ("assets", .entities f.assets), ("channels", .entities f.channels)] }

/-- The entity filters of a definition by name, where it has them. -/
def namedFilters (d : Definition) : List (String × Option NamedFilter) := [
  ("users", d.users.map namedUsers), ("courses", d.courses.map namedCourses),
  ("sessions", d.sessions.map (namedEntities "sessions")),
  ("learning_plans", d.learningPlans.map (namedEntities "learning_plans")),
  ("surveys", d.surveys.map (namedEntities "surveys")), ("assets", d.assets.map namedAssets)]

/-- The parts of every definition that are no entity filters. -/
def otherParts : List String := [
  "id_report", "type", "title", "description", "creation_date", "last_edit", "last_edit_by",
  "author", "platform", "standard", "timezone", "visibility", "fields", "sorting_options",
  "planning", "conditions", "user_additional_fields_filter", "deleted", "login_required"]

/-- The parts that are no entity filters and that a definition may be without. -/
def optionalParts (d : Definition) : List (String × Bool) := [
  ("enrollment_date", d.enrollmentDate.isSome), ("completion_date", d.completionDate.isSome),
  ("survey_completion_date", d.surveyCompletionDate.isSome),
  ("archiving_date", d.archivingDate.isSome),
  ("course_expiration_date", d.courseExpirationDate.isSome),
  ("published_date", d.publishedDate.isSome), ("enrollment", d.enrollment.isSome),
  ("session_dates", d.sessionDates.isSome), ("session_attendance_type", d.attendance.isSome),
  ("imported_from_legacy_id", d.importedFrom.isSome)]

def hasOtherPart (d : Definition) (name : String) : Bool :=
  otherParts.contains name || (lookup? name (optionalParts d)).getD false

def heldIds (f : NamedFilter) (name : String) : Outcome IdFilter :=
  match lookup? name f.holdings with
  | some (.entities items) => .ok (.ofList (selectedIds items))
  | some (.numbers []) => .ok .nothing
  | some (.numbers _) => .error .noSuchAttribute
  | some .single => .error .wrongType
  | none => .error .noSuchAttribute

/-- One list of an entity filter, both by name. -/
def namedList (d : Definition) (filter list : String) : Outcome IdFilter :=
  match (lookup? filter (namedFilters d)).bind id with
  | some f => if f.all then .ok .unrestricted else heldIds f list
  | none => if hasOtherPart d filter then .error .noSuchAttribute else .ok .unrestricted

end LearningReports.Selection
