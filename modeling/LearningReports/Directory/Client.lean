import LearningReports.Directory.Basic
import LearningReports.Directory.Exchange
import LearningReports.Json.Loose
import LearningReports.Text.Occurrence

/-! # A directory behind a network interface

A client asks a server and reads its loosely typed answers. The token goes with every request, the
session cookie only with requests that carry a body. -/
namespace LearningReports

structure Client where
  /-- What stands before the path of every request. -/
  basePath : String := ""
  token : String := ""
  cookie : String := ""
  csrfToken : String := ""
  limits : ExportLimits := {}
  deriving Repr

namespace Client

/-- What follows the scheme of an address. -/
def afterScheme : List Char → List Char
  | ':' :: '/' :: '/' :: rest => rest
  | _ :: rest => afterScheme rest
  | [] => []

/-- The path of an address, without the slashes at its end. -/
def pathOfAddress (address : String) : String :=
  let trimmed := (address.toList.reverse.dropWhile (· == '/')).reverse
  String.ofList ((afterScheme trimmed).dropWhile (· != '/'))

/-- A header with its value, unless the value is empty. -/
def header (name value beginning : String) : List (String × String) :=
  if value.isEmpty then [] else [(name, beginning ++ value)]

/-- The headers of a request. -/
def headers (c : Client) (method : Method) : List (String × String) :=
  header "Authorization" c.token "Bearer "
    ++ match method with
      | .get => []
      | .post => header "Cookie" c.cookie "" ++ header "X-CSRF-Token" c.csrfToken ""

/-- Sends a request and gives the content of the answer. -/
def ask (c : Client) (method : Method) (path : String) (query : List (String × String))
    (body : Option Json) : Exchanging Json := do
  let answer ← modifyGet (Exchange.send
    { method := method, path := c.basePath ++ path, query := query, headers := c.headers method
      body := body })
  (answer.contentFor method path).lift

/-- Asks for a page. -/
def get (c : Client) (path : String) (query : List (String × String)) : Exchanging Json :=
  c.ask .get path query none

/-- Sends a body. -/
def post (c : Client) (path : String) (body : List (String × Json)) : Exchanging Json :=
  c.ask .post path [] (some (.obj body))

/-- The data of a payload, or a default when it counts as absent. -/
def dataOr (payload default : Json) : Outcome Json :=
  return (← payload.memberOrNull "data").orDefault default

/-- The session of the caller. Without a token nobody is asked. -/
def session (c : Client) : Exchanging Session := do
  if c.token.isEmpty then return .anonymous c.limits
  else
    let payload ← c.get "/report/v1/report/session" []
    (do Session.ofPayload (← payload.memberOr "data" Json.noMembers) c.limits : Outcome _).lift

/-! ## Details of entities -/

/-- Pairs with each id once: the first place and the last value. -/
def bindId (id : Int) (v : Json) : List (Int × Json) → List (Int × Json)
  | [] => [(id, v)]
  | (other, w) :: rest => if other = id then (id, v) :: rest else (other, w) :: bindId id v rest

def recordsById (payload : Json) : Outcome (List (Int × Json)) := do
  let ms ← (← dataOr payload Json.noMembers).members
  let listed ← ms.mapM fun (key, v) => return (← Json.toInteger (.str key), v)
  return listed.foldl (fun done (id, v) => bindId id v done) []

/-- The kinds of entities of which the server keeps details. -/
inductive Kind where
  | users
  | groups
  | branches
  | courses
  | sessions
  | surveys
  | plans
  deriving Repr, DecidableEq

def Kind.path : Kind → String
  | .users => "/report/v1/report/users_details"
  | .groups => "/report/v1/report/groups_details"
  | .branches => "/report/v1/report/branches_details"
  | .courses => "/report/v1/report/courses_details"
  | .sessions => "/report/v1/report/sessions-details"
  | .surveys => "/report/v1/report/surveys-details"
  | .plans => "/report/v1/report/learningplans_details"

/-- The name under which the ids of a kind of entity are sent. -/
def Kind.key : Kind → String
  | .users => "id_users"
  | .groups => "id_groups"
  | .branches => "id_branches"
  | .courses => "id_courses"
  | .sessions => "id_sessions"
  | .surveys => "id_surveys"
  | .plans => "id_learning_plans"

/-- The details of the known ones of some entities, as they are. Without ids nobody is asked. -/
def details (c : Client) (kind : Kind) (ids : List Int) : Exchanging (List (Int × Json)) := do
  if ids.isEmpty then return []
  else
    let payload ← c.post kind.path [(kind.key, .arr (ids.map .int))]
    (recordsById payload).lift

def readRecord {α : Type} (d : Int → Members → Checked α) (record : Int × Json) : Outcome α := do
  (d record.1 (← record.2.members)).outcome

def groups (c : Client) (ids : List Int) : Exchanging (List GroupDetails) := do
  let records ← c.details .groups ids
  (records.mapM (readRecord Decode.groupDetails)).lift

def branches (c : Client) (ids : List Int) : Exchanging (List BranchDetails) := do
  let records ← c.details .branches ids
  (records.mapM (readRecord Decode.branchDetails)).lift

/-! ## Custom fields, wordings and subordinates -/

/-- Where the custom fields of courses, sessions and plans are found, and what they belong to. -/
def associationQuery (association : String) : String × List (String × String) :=
  ("/learn/v1/courses/field",
    [("no_pagination", "1"), ("association", association), ("show_field", "1")])

/-- Where the custom fields of an entity are found. -/
def fieldsQuery : Entity → String × List (String × String)
  | .user => ("/manage/v1/user_fields", [("no_pagination", "1")])
  | .course => associationQuery "course"
  | .enrollment => ("/report/v1/report/courseuser_fields", [])
  | .session => associationQuery "ilt"
  | .plan => associationQuery "coursepath"

/-- The items of data: those of a page, or the data itself. -/
def itemsOfData : Json → Outcome Json
  | .obj ms => (Json.obj ms).memberOr "items" (.arr [])
  | v => .ok v

def readFields (payload : Json) : Outcome (List FieldMetadata) := do
  let items ← itemsOfData (← dataOr payload (.arr []))
  (← items.elements).mapM fun v => (Decode.fieldMetadata v).outcome

def customFields (c : Client) (e : Entity) : Exchanging (List FieldMetadata) := do
  let (path, query) := fieldsQuery e
  let payload ← c.get path query
  (readFields payload).lift

/-- The known ones of some keys with their wording in a language. Without keys nobody is asked. -/
def wordings (c : Client) (keys : List String) (language : Json) :
    Exchanging (List (String × Json)) := do
  if keys.isEmpty then return []
  else
    let payload ← c.post "/report/v1/report/translations"
      [("translations", .texts keys), ("lang_code", language)]
    (do (← dataOr payload Json.noMembers).pairs : Outcome _).lift

/-- The user that an item speaks of; items that speak of none are passed over. -/
def userOf (item : Json) : Outcome (Option Int) :=
  let key := "user_id"
  match item with
  | .obj ms =>
    match lookup? key ms with
    | some id => id.toInteger.map some
    | none => .ok none
  | .arr items => if items.any (·.text? == some key) then .error .wrongType else .ok none
  | .str s => if Text.occursIn key.toList s.toList then .error .wrongType else .ok none
  | _ => .error .wrongType

def readUsers (payload : Json) : Outcome (List Int) := do
  let items ← (← dataOr payload Json.noMembers).memberOr "items" (.arr [])
  return (← (← items.elements).mapM userOf).filterMap id

/-- The users whom a user manages in one of some ways. -/
def subordinates (c : Client) (user : Int) (types : List Int) : Exchanging (List Int) := do
  let payload ← c.get ("/skill/v1/managers/" ++ toString user ++ "/subordinates")
    (types.map fun t => ("manager_type_id[]", toString t))
  (readUsers payload).lift

/-! ## What is assigned to a power user -/

/-- A page of users: their ids and the number of pages, at least one. -/
structure Page where
  ids : List Int
  pages : Int
  deriving Repr, DecidableEq

def readPage (payload : Json) : Outcome Page := do
  let data ← dataOr payload Json.noMembers
  let items ← data.memberOr "items" (.arr [])
  let ids ← (← items.elements).mapM Json.toInteger
  let pages ← ((← data.memberOr "total_pages" (.int 1)).orDefault (.int 1)).toInteger
  return { ids := ids, pages := pages }

/-- The number of users on a page. -/
def pageSize : Nat := 1000

/-- Asks for one page of users. -/
def page (c : Client) (number : Nat) : Exchanging Page := do
  let payload ← c.get "/report/v1/report/pu_users"
    [("page_dimension", toString pageSize), ("page_number", toString number)]
  (readPage payload).lift

/-- The users on the pages from a number on, with at most so many pages. -/
def usersFrom (c : Client) : Nat → Nat → Exchanging (List Int)
  | 0, _ => pure []
  | fuel + 1, number => do
    let p ← c.page number
    if p.pages ≤ number then return p.ids
    else return p.ids ++ (← c.usersFrom fuel (number + 1))

/-- The number of requests that the server can answer well. -/
def answersLeft : Exchanging Nat := return (← MonadState.get).answers.length

/-- The users assigned to a power user, from all pages. Every page but the last takes an answer, so
the answers that are left bound the pages. -/
def assignedUsers (c : Client) : Exchanging (List Int) := do
  c.usersFrom ((← answersLeft) + 1) 1

def readIds (payload : Json) : Outcome (List Int) := do
  (← (← dataOr payload (.arr [])).elements).mapM Json.toInteger

/-- The courses assigned to a power user. -/
def assignedCourses (c : Client) : Exchanging (List Int) := do
  (readIds (← c.get "/report/v1/report/pu_courses" [])).lift

def assignedPlans (c : Client) : Exchanging (List Int) := do
  (readIds (← c.get "/report/v1/report/pu_lps" [])).lift

/-- The directory that a client gives access to. -/
def directory (c : Client) : Directory Exchanging where
  session := c.session
  wordings := c.wordings
  groups := c.groups
  branches := c.branches
  branchBound := answersLeft
  customFields := c.customFields
  subordinates := c.subordinates
  assignedUsers := c.assignedUsers
  assignedCourses := c.assignedCourses
  assignedPlans := c.assignedPlans

end Client
end LearningReports
