import LearningReports.Definition.Named

/-! # Writing definitions

A written definition has every member under its camel-case name, null where nothing is set. -/
namespace LearningReports

/-- A value or null. -/
def Json.ofOption {α : Type} (f : α → Json) : Option α → Json
  | none => .null
  | some a => f a

/-- A list of values. -/
def Json.ofList {α : Type} (f : α → Json) (as : List α) : Json := .arr (as.map f)

mutual

/-- The value with null for every number that is not finite. -/
def Json.finite : Json → Json
  | .float (.finite negative m e) => .float (.finite negative m e)
  | .float _ => .null
  | .arr items => .arr (finiteItems items)
  | .obj members => .obj (finiteMembers members)
  | v => v

/-- The items with null for every number that is not finite. -/
def Json.finiteItems : List Json → List Json
  | [] => []
  | v :: vs => v.finite :: finiteItems vs

/-- The members with null for every number that is not finite. -/
def Json.finiteMembers : List (String × Json) → List (String × Json)
  | [] => []
  | (k, v) :: rest => (k, v.finite) :: finiteMembers rest

end

namespace Encode

def selectedItem (i : SelectedItem) : Json := .obj [
  ("id", .int i.id), ("name", .ofOption .str i.name), ("descendants", .bool i.descendants)]

def selection (items : List SelectedItem) : Json := .ofList selectedItem items

def visibility (v : Visibility) : Json := .obj [
  ("type", .ofOption (fun a => .int (numberIn Audience.numbered a)) v.audience),
  ("users", selection v.users), ("groups", selection v.groups),
  ("branches", selection v.branches)]

def sorting (s : Sorting) : Json := .obj [
  ("selector", .str (nameIn SortSelector.named s.selector)), ("selectedField", .str s.field),
  ("orderBy", .str (nameIn SortDirection.named s.direction))]

def planningOption (o : PlanningOption) : Json := .obj [
  ("isPaused", .bool o.isPaused), ("recipients", .texts o.recipients), ("every", .int o.every),
  ("timeFrame", .str (nameIn TimeFrame.named o.timeFrame)), ("scheduleFrom", .str o.scheduleFrom),
  ("startHour", .str o.startHour), ("timezone", .str o.timezone)]

def planning (p : Planning) : Json := .obj [
  ("active", .bool p.active), ("option", planningOption p.option)]

def dateOption (o : DateOption) : Json := .obj [
  ("any", .bool o.isAny), ("type", .str o.type), ("operator", .str o.operator),
  ("days", .int o.days), ("from", o.first.finite), ("to", o.last.finite)]

def editor (e : Editor) : Json := .obj [
  ("idUser", .int e.idUser), ("firstname", .str e.firstname), ("lastname", .str e.lastname),
  ("username", .str e.username), ("avatar", .str e.avatar)]

def usersFilter (f : UsersFilter) : Json := .obj [
  ("all", .bool f.all), ("users", selection f.users), ("groups", selection f.groups),
  ("branches", selection f.branches), ("hideDeactivated", .bool f.hideDeactivated),
  ("showOnlyLearners", .bool f.showOnlyLearners), ("hideExpiredUsers", .bool f.hideExpired),
  ("isUserAddFields", .bool f.byCustomFields), ("managerTypes", .ofList .int f.managerTypes)]

def coursesFilter (f : CoursesFilter) : Json := .obj [
  ("all", .bool f.all), ("courses", selection f.courses), ("categories", selection f.categories),
  ("courseType", .int (numberIn CourseKind.numbered f.kind)),
  ("instructors", selection f.instructors)]

def entityFilter (name : String) (f : EntityFilter) : Json := .obj [
  ("all", .bool f.all), (name, selection f.items)]

def assetsFilter (f : AssetsFilter) : Json := .obj [
  ("all", .bool f.all), ("assets", selection f.assets), ("channels", selection f.channels)]

def enrollmentFilter (f : EnrollmentFilter) : Json := .obj [
  ("completed", .bool f.completed), ("inProgress", .bool f.inProgress),
  ("notStarted", .bool f.notStarted), ("waitingList", .bool f.waitingList),
  ("suspended", .bool f.suspended), ("enrollmentsToConfirm", .bool f.toConfirm),
  ("subscribed", .bool f.subscribed), ("overbooking", .bool f.overbooking),
  ("enrollmentTypes", .int (numberIn EnrollmentScope.numbered f.scope))]

def sessionDates (s : SessionDates) : Json := .obj [
  ("conditions", .str (nameIn DateConditions.named s.conditions)),
  ("startDate", dateOption s.start), ("endDate", dateOption s.finish)]

def attendanceFilter (f : AttendanceFilter) : Json := .obj [
  ("blended", .bool f.blended), ("flexible", .bool f.flexible),
  ("fullOnline", .bool f.fullOnline), ("fullOnsite", .bool f.fullOnsite)]

def integerTable (entries : List (Int × Int)) : Json :=
  .obj (entries.map fun (k, v) => (toString k, .int v))

def definition (d : Definition) : Json := .obj [
  ("idReport", .str d.idReport), ("type", .str d.type.name), ("title", .str d.title),
  ("description", .str d.description), ("creationDate", .str d.creationDate),
  ("lastEdit", .str d.lastEdit), ("lastEditBy", editor d.lastEditBy), ("author", .int d.author),
  ("platform", .str d.platform), ("standard", .bool d.standard), ("timezone", .str d.timezone),
  ("visibility", visibility d.visibility), ("fields", .texts d.fields),
  ("sortingOptions", sorting d.sorting), ("planning", planning d.planning),
  ("conditions", .str (nameIn DateConditions.named d.conditions)),
  ("users", .ofOption usersFilter d.users), ("courses", .ofOption coursesFilter d.courses),
  ("sessions", .ofOption (entityFilter "sessions") d.sessions),
  ("learningPlans", .ofOption (entityFilter "learningPlans") d.learningPlans),
  ("surveys", .ofOption (entityFilter "surveys") d.surveys),
  ("assets", .ofOption assetsFilter d.assets),
  ("enrollmentDate", .ofOption dateOption d.enrollmentDate),
  ("completionDate", .ofOption dateOption d.completionDate),
  ("surveyCompletionDate", .ofOption dateOption d.surveyCompletionDate),
  ("archivingDate", .ofOption dateOption d.archivingDate),
  ("courseExpirationDate", .ofOption dateOption d.courseExpirationDate),
  ("publishedDate", .ofOption dateOption d.publishedDate),
  ("enrollment", .ofOption enrollmentFilter d.enrollment),
  ("userAdditionalFieldsFilter", integerTable d.userFieldOptions),
  ("sessionDates", .ofOption sessionDates d.sessionDates),
  ("sessionAttendanceType", .ofOption attendanceFilter d.attendance),
  ("importedFromLegacyId", .ofOption .str d.importedFrom), ("deleted", .bool d.deleted),
  ("loginRequired", .bool d.loginRequired)]

end Encode
end LearningReports
