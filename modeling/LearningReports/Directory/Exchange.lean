import LearningReports.Failure

/-! # Exchanges with a server

The server is the list of answers that it will give, in order; after the last one it finds nothing.
An exchange also keeps the requests that were sent. -/
namespace LearningReports

inductive Method where
  | get
  | post
  deriving Repr, DecidableEq

/-- The word of a method. -/
def Method.text : Method → String
  | .get => "GET"
  | .post => "POST"

structure Request where
  method : Method
  path : String
  query : List (String × String) := []
  headers : List (String × String) := []
  body : Option Json := none
  deriving Repr

/-- An answer. One without content holds text that is not JSON. -/
structure Answer where
  status : Int := 200
  content : Option Json := some (.obj [])
  deriving Repr

/-- The answers still to come and the requests sent so far. -/
structure Exchange where
  answers : List Answer := []
  sent : List Request := []
  deriving Repr

/-- Actions that talk to the server and may fail. What was sent stays sent. -/
abbrev Exchanging := ExceptT Failure (StateM Exchange)

namespace Exchange

/-- The answer of a server that has no answers left. -/
def nothingFound : Answer := { status := 404 }

/-- The answer to a request, and the exchange after it. -/
def send (r : Request) (x : Exchange) : Answer × Exchange :=
  (x.answers.headD nothingFound, { answers := x.answers.tail, sent := x.sent ++ [r] })

@[simp] theorem sent_send (r : Request) (x : Exchange) : (x.send r).2.sent = x.sent ++ [r] := rfl

end Exchange

def DirectoryFault.ofStatus (status : Int) : DirectoryFault :=
  if status = 400 then .badRequest
  else if status = 401 then .unauthorized
  else if status = 404 then .notFound
  else if status = 500 then .server
  else .general

def Answer.contentFor (a : Answer) (method : Method) (path : String) : Outcome Json :=
  if a.status ≠ 200 then
    .error (.directory (.ofStatus a.status)
      ("Metadata service answered " ++ toString a.status ++ " for " ++ method.text ++ " " ++ path)
      (some a.status))
  else
    match a.content with
    | some v => .ok v
    | none => .error .malformedText

end LearningReports
