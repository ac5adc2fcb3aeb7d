import LearningReports.Definition.Default
import LearningReports.Json.Reader
import LearningReports.Legacy.Dates
import LearningReports.Legacy.FieldMap
import LearningReports.Legacy.Report
import LearningReports.Report.Columns.Enrollment
import LearningReports.Text.LowerCase

/-! # Importing legacy reports

A legacy report becomes a definition of the matching type. Its filters have no fixed shape; a
report that cannot be read is set aside and does not disturb the others of its batch. -/
namespace LearningReports.Legacy

/-- How deep calls may still nest at the places where an import goes down into a value: where it
reads a text, and where it shows a value as one. -/
structure Room where
  reading : Nat := Json.usualNesting
  ids : Nat := Json.usualNesting
  states : Nat := Json.usualNesting
  expiration : Nat := Json.usualNesting
  days : Nat := Json.usualNesting
  statuses : Nat := Json.usualNesting
  direction : Nat := Json.usualNesting
  deriving Repr, DecidableEq

/-! ## Types and visibility -/

/-- The report types by the ids that the older tool gave them. -/
def typeIds : List (String × ReportType) := [
  ("1", .usersCourses), ("2", .enrollmentTime), ("20", .classroomSessions),
  ("50", .assetStatistics)]

def typeOf? (r : Report) : Option ReportType := lookup? r.typeId typeIds

/-- The type of a legacy report, or the failure that names its id. -/
def typeOf (r : Report) : Outcome ReportType :=
  match typeOf? r with
  | some t => .ok t
  | none => .error (.legacyReport ("No report type for the legacy type " ++ r.typeId))

/-- The type given for a legacy report, or its own type when none is given. -/
def chosenType (given : Json) (r : Report) : Outcome ReportType :=
  if given.isPresent then
    match given.text?.bind ReportType.ofName? with
    | some t => .ok t
    | none => .error (.unknownReportType given.asText)
  else typeOf r

def audience (visibility : String) : Audience :=
  if visibility = "public" then .powerUsers
  else if visibility = "selection" then .selectedPowerUsers
  else .administrators

/-- A state of a legacy selection that includes the descendants. -/
def withDescendants : String := "2"

def addRule (v : Visibility) (rule : VisibilityRule) : Outcome Visibility := do
  let id ← Json.toInteger (.str rule.memberId)
  if rule.memberType = "user" then return { v with users := v.users ++ [{ id := id }] }
  else if rule.memberType = "group" then return { v with groups := v.groups ++ [{ id := id }] }
  else if rule.memberType = "branch" then return { v with
    branches := v.branches ++ [{ id := id, descendants := rule.selectState == withDescendants }] }
  else return v

def rulesOf (r : Report) (rules : List VisibilityRule) : List VisibilityRule :=
  rules.filter (·.idReport == r.idFilter)

/-- The visibility of a legacy report. Rules matter only to reports that are shared by selection. -/
def visibility (r : Report) (rules : List VisibilityRule) : Outcome Visibility :=
  let start : Visibility := { audience := some (audience r.visibility) }
  if audience r.visibility = .selectedPowerUsers then (rulesOf r rules).foldlM addRule start
  else .ok start

/-! ## Selections -/

/-- The id of an entry: the entry itself, or what an object has for it. -/
def idOf (entry : Json) : Json :=
  match entry with
  | .obj ms => ((lookup? "id" ms).orElse fun _ => lookup? "key" ms).getD .null
  | v => v

/-- Null and blank entries have no id. -/
def isBlankId (room : Nat) (id : Json) : Outcome Bool :=
  match id with
  | .null => return true
  | v => return (Text.trim (← v.textWithin room)).isEmpty

/-- The entity of an entry, if the entry has an id. -/
def item? (room : Nat) (entry : Json) : Outcome (Option SelectedItem) := do
  let id := idOf entry
  if ← isBlankId room id then return none
  else return some { id := ← id.toInteger }

def items (room : Nat) (selection : Json) : Outcome (List SelectedItem) := do
  return (← (← selection.elementsIfPresent).mapM (item? room)).filterMap id

/-- The state of an object in a selection of branches. -/
def stateOf (ms : List (String × Json)) : Json :=
  ((lookup? "selectState" ms).orElse fun _ => lookup? "select_state" ms).getD (.str "1")

/-- The state of an entry of a selection of branches includes the descendants. -/
def entryHasDescendants (room : Nat) (entry : Json) : Outcome Bool :=
  match entry with
  | .obj ms => return (← (stateOf ms).textWithin room) == withDescendants
  | _ => return false

/-- Entries without an id are null. -/
def isNull : Json → Bool
  | .null => true
  | _ => false

/-- The branch of an entry, if the entry has an id. -/
def branchItem? (room : Nat) (entry : Json) : Outcome (Option SelectedItem) := do
  let id := idOf entry
  let descendants ← entryHasDescendants room entry
  if isNull id then return none
  else return some { id := ← id.toInteger, descendants := descendants }

def branchItems (room : Nat) (selection : Json) : Outcome (List SelectedItem) := do
  return (← (← selection.elementsIfPresent).mapM (branchItem? room)).filterMap id

/-- A member of the legacy filters as selected entities. -/
def itemsOf (room : Nat) (data : Json) (name : String) : Outcome (List SelectedItem) := do
  items room (← data.memberOrNull name)

def usersFilter (room : Room) (data : Json) (f : UsersFilter) : Outcome UsersFilter := do
  let users ← itemsOf room.ids data "users"
  let groups ← itemsOf room.ids data "groups"
  let branches ← branchItems room.states (← data.memberOrNull "branches")
  return { f with
    all := users.isEmpty && groups.isEmpty && branches.isEmpty
    users := users, groups := groups, branches := branches }

def coursesFilter (room : Room) (data : Json) (f : CoursesFilter) : Outcome CoursesFilter := do
  let courses ← itemsOf room.ids data "courses"
  return { f with all := courses.isEmpty, courses := courses }

def assetsFilter (room : Room) (data : Json) : Outcome AssetsFilter := do
  let assets ← itemsOf room.ids data "assets"
  let channels ← itemsOf room.ids data "channels"
  return { all := assets.isEmpty && channels.isEmpty, assets := assets, channels := channels }

/-- A filter changed, where the definition has one. -/
def changed {α : Type} (f : α → Outcome α) : Option α → Outcome (Option α)
  | none => .ok none
  | some a => (f a).map some

def withSelections (room : Room) (data : Json) (d : Definition) : Outcome Definition := do
  let users ← changed (usersFilter room data) d.users
  let courses ← changed (coursesFilter room data) d.courses
  let assets ← changed (fun _ => assetsFilter room data) d.assets
  return { d with users := users, courses := courses, assets := assets }

/-! ## Dates -/

/-- The first day that counts. -/
def epoch : Json := .str "1970-01-01"

/-- The option on the end of courses: in so many days, or before a day. -/
def expiration (room : Nat) (filters : Json) (option : DateOption) : Outcome DateOption := do
  let count := (← filters.memberOrNull "courses_expiring_in").orDefault (.str "")
  let days ← count.textWithin room
  let before ← filters.memberOrNull "courses_expiring_before"
  if !days.isEmpty && !days.toList.contains '/' then
    return { option with
      isAny := false, type := "relative", days := ← Json.toInteger (.str days)
      operator := "expiringIn" }
  else if before.isPresent then
    return { option with
      isAny := false, type := "range", days := 0, operator := "range"
      first := epoch, last := before }
  else return option

def dateOf (room : Nat) (filters : Json) (name : String) (option : Option DateOption) :
    Outcome (Option DateOption) := do
  let legacy ← filters.memberOrNull name
  match option with
  | none => return none
  | some o =>
    if !legacy.isPresent then return some o
    else
      match ← legacy.memberOrNull "type" with
      | .str "any" => return some o
      | _ => return some (← date o legacy room)

def withDates (room : Room) (filters : Json) (d : Definition) : Outcome Definition := do
  let courseExpirationDate ←
    changed (expiration room.expiration filters) d.courseExpirationDate
  let d := { d with courseExpirationDate := courseExpirationDate }
  match d.type with
  | .usersCourses =>
    let enrollmentDate ← dateOf room.days filters "start_date" d.enrollmentDate
    let completionDate ← dateOf room.days filters "end_date" d.completionDate
    return { d with enrollmentDate := enrollmentDate, completionDate := completionDate }
  | .classroomSessions =>
    return { d with enrollmentDate := ← dateOf room.days filters "start_date" d.enrollmentDate }
  | .assetStatistics =>
    return { d with publishedDate := ← dateOf room.days filters "start_date" d.publishedDate }
  | .enrollmentTime | .surveyAnswers | .planStatistics => return d

/-- The definition with the way in which the legacy filters combine dates. -/
def withConditions (filters : Json) (d : Definition) : Outcome Definition := do
  let status ← filters.memberOrNull "condition_status"
  if !status.isPresent then return d
  else
    match status with
    | .str "and" => return { d with conditions := .all }
    | _ => return { d with conditions := .atLeastOne }

/-! ## Enrollment status -/

/-- The codes of the statuses by the names that the older tool gave them. -/
def statusNames : List (String × EnrollmentStatus) := [
  ("waiting_list", .waitingList), ("to_confirm", .toConfirm), ("subscribed", .subscribed),
  ("in_progress", .inProgress), ("completed", .completed), ("suspended", .suspended),
  ("overbooking", .overbooking)]

def statuses : List EnrollmentStatus := [.waitingList, .toConfirm, .subscribed, .inProgress,
  .completed, .suspended, .overbooking]

/-- The code of a legacy status, a name or a code. -/
def statusCode (room : Nat) (v : Json) : Outcome Int := do
  match lookup? (← v.textWithin room) statusNames with
  | some s => return s.code
  | none => v.toInteger

def switchOn (f : EnrollmentFilter) : EnrollmentStatus → EnrollmentFilter
  | .waitingList => { f with waitingList := true }
  | .toConfirm => { f with toConfirm := true }
  | .subscribed => { f with subscribed := true, notStarted := true }
  | .inProgress => { f with inProgress := true }
  | .completed => { f with completed := true }
  | .suspended => { f with suspended := true }
  | .overbooking => { f with overbooking := true }

/-- The filter with the flags of a code on; an unknown code has none. -/
def switchOnCode (f : EnrollmentFilter) (code : Int) : EnrollmentFilter :=
  match statuses.find? (·.code == code) with
  | some s => switchOn f s
  | none => f

def switchedOff (f : EnrollmentFilter) : EnrollmentFilter := { f with
  completed := false, inProgress := false, notStarted := false, waitingList := false
  suspended := false, toConfirm := false, subscribed := false, overbooking := false }

/-- The values of a legacy status, if it picks some. -/
def statusValues? : Json → Option (List Json)
  | .null | .str "all" | .str "" => none
  | .arr items => some items
  | v => some [v]

/-- The filter with only the flags of the legacy status on; a status without flags changes
nothing. -/
def statusFilter (room : Nat) (legacy : Json) (f : EnrollmentFilter) :
    Outcome EnrollmentFilter := do
  match statusValues? legacy with
  | none => return f
  | some values =>
    let picked := (← values.mapM (statusCode room)).foldl switchOnCode (switchedOff f)
    return if picked.flags.any id then picked else f

def withStatus (room : Nat) (filters : Json) (d : Definition) : Outcome Definition := do
  match d.enrollment with
  | none => return d
  | some f =>
    let picked ← statusFilter room (← filters.memberOrNull "subscription_status") f
    return { d with enrollment := some picked }

/-! ## Fields and order -/

/-- The keys that a section selects: the elements, or the keys of an object that are on. -/
def keysOf : Json → Outcome (List Json)
  | .obj ms => .ok ((ms.filter (·.2.isPresent)).map fun (k, _) => .str k)
  | v => v.elementsIfPresent

/-- The field of a key; keys of no field are passed over. -/
def fieldOf (map : FieldMap) (key : Json) : Outcome (Option (String × Field)) :=
  match key with
  | .str s => .ok ((lookup? s map).map fun f => (s, f))
  | v => if v.isKey then .ok none else .error .wrongType

/-- The selected fields of a section, each with the name of its section and key. -/
def sectionFields (fields : Json) (name : String) (map : FieldMap) :
    Outcome (List (String × Field)) := do
  let keys ← keysOf (← fields.memberOrNull name)
  let found ← keys.mapM (fieldOf map)
  return (found.filterMap id).map fun (key, f) => (name ++ "." ++ key, f)

/-- The selected fields of all sections. -/
def allFields (fields : Json) (map : List (String × FieldMap)) :
    Outcome (List (String × Field)) := do
  return (← map.mapM fun (name, m) => sectionFields fields name m).flatten

def sortField? (selected : List (String × Field)) (orderBy : Json) : Option Field :=
  (selected.reverse.find? fun (name, _) => orderBy.text? == some name).map (·.2)

def directionOf (type : String) : SortDirection :=
  if Text.lower type = "desc" then .descending else .ascending

def direction (room : Nat) (type : Json) : Outcome SortDirection :=
  return directionOf (← type.textWithin room)

/-- The definition with the fields and the order of the legacy filters. -/
def withFields (room : Nat) (data : Json) (map : List (String × FieldMap)) (d : Definition) :
    Outcome Definition := do
  let fields := (← data.memberOrNull "fields").orDefault Json.noMembers
  let order := (← data.memberOrNull "order").orDefault Json.noMembers
  let orderBy ← order.memberOr "orderBy" (.str "")
  let direction ← direction room (← order.memberOr "type" (.str ""))
  let selected ← allFields fields map
  let d := { d with fields := d.type.withMandatory (selected.map (·.2.id)) }
  match sortField? selected orderBy with
  | none => return d
  | some f =>
    return { d with sorting := { selector := .custom, field := f.id, direction := direction } }

/-! ## Reports -/

/-- The written text of some filters; where there is none, that of no filters. -/
def written (s : String) : String := if s.isEmpty then "\x7b\x7d" else s

def payload (data : FilterData) (room : Nat := Json.usualNesting) : Outcome Json :=
  match data with
  | .members ms => .ok (.obj ms)
  | .text s =>
    match Json.read (written s) room with
    | .ok v => .ok v
    | .error .malformed => .error .malformedText
    | .error (.tooLong digits) => .error (.oversizedInteger digits)
    | .error .tooDeep => .error .tooDeep

def withHead (r : Report) (platform : String) (rules : List VisibilityRule) (d : Definition) :
    Outcome Definition := do
  let d := { d with
    title := r.name, platform := platform, standard := r.isStandard == "1"
    importedFrom := some r.idFilter, visibility := ← visibility r rules }
  if r.creationDate.isEmpty then return d
  else
    let lastEdit := r.lastEdit.getD ""
    return { d with
      creationDate := r.creationDate
      lastEdit := if lastEdit.isEmpty then r.creationDate else lastEdit }

def author (r : Report) : Outcome Int :=
  if r.author.isEmpty then .ok 0 else Json.toInteger (.str r.author)

def withFilters (room : Room) (data : Json) (map : List (String × FieldMap)) (d : Definition) :
    Outcome Definition := do
  let d ← withSelections room data d
  let filters ← data.memberOrNull "filters"
  if !filters.isPresent then throw (.legacyReport "No legacy filters section")
  let d ← withDates room filters d
  let d ← withConditions filters d
  let d ← withStatus room.statuses filters d
  withFields room.direction data map d

def parse (s : Session) (stamp : Stamp) (t : ReportType) (r : Report) (platform : String)
    (rules : List VisibilityRule) (room : Room := {}) : Outcome Definition := do
  let map ← sections t
  let author ← author r
  let new ← (Definition.default t s stamp { title := .str r.name, author := .int author }).outcome
  let headed ← withHead r platform rules new
  withFilters room (← payload r.data room.reading) map headed

/-- The platform of a batch: the one given, or that of the caller. -/
def platformOf (s : Session) (given : String) : String :=
  if given.isEmpty then s.platform.baseUrl.asText else given

/-- The result with one more report. Some failures set the report aside, the others end the batch.
-/
def importOne (s : Session) (stamp : Stamp) (rules : List VisibilityRule) (platform : String)
    (room : Room) (done : ImportResult) (r : Report) : Outcome ImportResult :=
  match typeOf? r with
  | none => .ok { done with notParsed := done.notParsed ++ [r] }
  | some t =>
    match parse s stamp t r platform rules room with
    | .ok d => .ok { done with parsed := done.parsed ++ [d] }
    | .error e =>
      if e.isSetAside then .ok { done with notParsed := done.notParsed ++ [r] } else .error e

/-- Imports a batch. -/
def importMany (s : Session) (stamp : Stamp) (q : ImportRequest) (room : Room := {}) :
    Outcome ImportResult :=
  q.reports.foldlM (importOne s stamp q.rules (platformOf s q.platform) room) {}

end LearningReports.Legacy
