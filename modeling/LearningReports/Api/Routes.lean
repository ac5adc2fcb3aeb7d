import LearningReports.Api.Answers
import LearningReports.Json.Reader
import LearningReports.Legacy.Report

/-! # The service on the network

A call names a path and a method and carries a body. Every failure has a status and a body of its
own; issues of the body are reported under `body`. -/
namespace LearningReports.Api

structure Call where
  method : String
  path : String
  body : Option Json := none
  deriving Repr

/-- The method of a call in capitals: its letter case does not matter. -/
def Call.verb (c : Call) : String := String.ofList (c.method.toList.map Char.toUpper)

structure Reply where
  status : Int
  body : Json
  deriving Repr

/-- What the service offers. -/
inductive Route where
  | compile
  | newReport
  | sort
  | types
  | importLegacy
  deriving Repr, DecidableEq

namespace Route

def all : List Route := [.compile, .newReport, .sort, .types, .importLegacy]

def path : Route → String
  | .compile => "/api/reports/compile"
  | .newReport => "/api/reports/default"
  | .sort => "/api/reports/sorting"
  | .types => "/api/reports/types"
  | .importLegacy => "/api/legacy/import"

def method : Route → String
  | .types => "GET"
  | .compile | .newReport | .sort | .importLegacy => "POST"

/-- The text with a character for each escape of a percent sign and two digits of base sixteen. -/
def unescaped : List Char → List Char
  | '%' :: a :: b :: cs =>
    match Json.hexValue? a, Json.hexValue? b with
    | some high, some low => Char.ofNat (16 * high + low) :: unescaped cs
    | _, _ => '%' :: unescaped (a :: b :: cs)
  | c :: cs => c :: unescaped cs
  | [] => []

/-- The place that a path names: without a query, with its escapes resolved, and without the slashes
that close it. -/
def place (path : String) : String :=
  let named := unescaped (path.toList.takeWhile fun c => c != '?' && c != '#')
  String.ofList (named.reverse.dropWhile (· == '/')).reverse

def ofPath? (path : String) : Option Route := all.find? (·.path == place path)

end Route

namespace Reply

/-- A reply with a result. -/
def success (body : Json) : Reply := ⟨200, body⟩

def detail (status : Int) (text : String) : Reply := ⟨status, .obj [("detail", .str text)]⟩

def typed (status : Int) (text kind : String) (more : List (String × Json)) : Reply :=
  ⟨status, .obj ([("detail", .str text), ("type", .str kind)] ++ more)⟩

def issues (is : List Issue) : Reply :=
  let placed := is.map fun i => { i with path := .key "body" :: i.path }
  ⟨422, .obj [("detail", .ofList Encode.issue placed)]⟩

def kindOfFault : DirectoryFault → String
  | .general => "MetadataServiceError"
  | .badRequest => "MetadataBadRequestError"
  | .unauthorized => "MetadataUnauthorizedError"
  | .notFound => "MetadataNotFoundError"
  | .server => "MetadataServerError"

/-- The reply that a failure ends in. Failures that say nothing of the request are internal. -/
def ofFailure (e : Failure) : Reply :=
  match e with
  | .directory fault text status =>
    typed 502 text (kindOfFault fault) [("upstream_status", .ofOption .int status)]
  | .unknownReportType _ => typed 404 e.message "UnknownReportTypeError" []
  | .report text => typed 400 text "ReportEngineError" []
  | .legacyReport text => typed 400 text "LegacyReportError" []
  | .notImplemented text => detail 501 (if text.isEmpty then "Not implemented" else text)
  | .http status text => detail status text
  | _ => detail 500 "Internal Server Error"

end Reply

namespace Service

variable {m : Type → Type} [Monad m] [MonadExceptOf Failure m]

/-- The reply to a call whose body has to be there and has to be of a shape. -/
def withBody {α : Type} (c : Call) (d : WrongShape → Decoder α) (result : α → m Json) : m Reply :=
  match c.body with
  | none | some .null => return .issues [⟨.missing, []⟩]
  | some v =>
    match d .anonymous v with
    | .valid a => return .success (← result a)
    | .invalid issues => return .issues issues

def handle (s : Service m) (c : Call) : Route → m Reply
  | .compile => withBody c Decode.compileRequest fun r =>
    return Encode.compileAnswer (← s.compile r)
  | .newReport => withBody c Decode.newReportRequest fun r =>
    return LearningReports.Encode.definition (← s.newReport r)
  | .sort => withBody c Decode.sortingRequest fun r =>
    return LearningReports.Encode.definition r.result
  | .types => return .success Encode.reportTypes
  | .importLegacy => withBody c Legacy.Decode.importRequest fun r =>
    return Legacy.Encode.importResult (← s.importLegacy r)

def reply (s : Service m) (c : Call) : m Reply :=
  match Route.ofPath? c.path with
  | none => return .detail 404 "Not Found"
  | some route =>
    if c.verb ≠ route.method then return .detail 405 "Method Not Allowed"
    else tryCatch (s.handle c route) fun e => return .ofFailure e

end Service
end LearningReports.Api
