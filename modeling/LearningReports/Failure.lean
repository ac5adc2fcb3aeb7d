import LearningReports.Json.Shown
import LearningReports.Validation.Issue

/-! # Failures

Every way in which a request can fail, and its message. -/
namespace LearningReports

/-- How the directory refused a request. -/
inductive DirectoryFault where
  | general
  | badRequest
  | unauthorized
  | notFound
  | server
  deriving Repr, DecidableEq

inductive Failure where
  | report (message : String)
  | unknownReportType (name : String)
  | legacyReport (message : String)
  | directory (fault : DirectoryFault) (message : String) (status : Option Int)
  | notImplemented (message : String)
  | value (message : String)
  | unreadableInteger (shown : String)
  | oversizedInteger (digits : Nat)
  | integerOfNaN
  | integerOfInfinity
  | notMember (shown : String) (family : String)
  | invalid (issues : List Issue)
  | malformedText
  | wrongType
  | noSuchAttribute
  | missingKey
  | noSuchTable
  /-- Calls nest deeper than there is room for. -/
  | tooDeep
  | runtime
  | http (status : Int) (detail : String)
  deriving Repr

namespace Failure

/-- The failure of an operation that a report type or a query engine does not offer. -/
def unsupported : Failure := .notImplemented "Method not implemented."

/-- The longest part of a shown value that a message repeats. -/
def shownLimit : Nat := 200

/-- The message of a failure; empty for those that carry none. -/
def message : Failure → String
  | .report text => text
  | .unknownReportType name => "Unknown report type: " ++ name
  | .legacyReport text => text
  | .directory _ text _ => text
  | .notImplemented text => text
  | .value text => text
  | .unreadableInteger shown =>
    "invalid literal for int() with base 10: " ++ String.ofList (shown.toList.take shownLimit)
  | .oversizedInteger digits =>
    "Exceeds the limit (4300 digits) for integer string conversion: value has "
      ++ toString digits ++ " digits; use sys.set_int_max_str_digits() to increase the limit"
  | .integerOfNaN => "cannot convert float NaN to integer"
  | .integerOfInfinity => "cannot convert float infinity to integer"
  | .notMember shown family => shown ++ " is not a valid " ++ family
  | .http _ detail => detail
  | .invalid _ | .malformedText | .wrongType | .noSuchAttribute | .missingKey | .noSuchTable
  | .tooDeep | .runtime => ""

/-- The batch import sets a report aside for these failures; the others end the whole batch. -/
def isSetAside : Failure → Bool
  | .report _ | .unknownReportType _ | .legacyReport _ | .directory _ _ _ => true
  | .notImplemented _ => true
  | .value _ | .unreadableInteger _ | .oversizedInteger _ | .integerOfNaN | .notMember _ _ => true
  | .invalid _ | .malformedText => true
  | .wrongType | .missingKey => true
  | .integerOfInfinity | .noSuchAttribute | .noSuchTable => false
  | .tooDeep | .runtime | .http _ _ => false

end Failure

/-- A computation that may fail. -/
abbrev Outcome (α : Type) := Except Failure α

end LearningReports
