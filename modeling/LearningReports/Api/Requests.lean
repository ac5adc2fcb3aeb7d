import LearningReports.Definition.Decode
import LearningReports.Report.Compile
import LearningReports.Text.Blank

/-! # Requests

What callers ask for. Requests know each member under one name; only a compile request refuses
members that it does not know. -/
namespace LearningReports.Api

structure CompileRequest where
  definition : Definition
  /-- The engine, if not the usual one. -/
  engine : Option Sql.Dialect := none
  options : CompileOptions := {}
  deriving Repr

structure NewReportRequest where
  type : ReportType
  title : String
  description : String := ""
  deriving Repr, DecidableEq

structure SortingRequest where
  definition : Definition
  sorting : Sorting
  deriving Repr

namespace Decode

open LearningReports.Decode

def knownOnly (names : List String) (ms : Members) : Checked Unit :=
  match ms.filter fun m => !names.contains m.1 with
  | [] => .valid ()
  | unknown => .invalid (unknown.map fun m => ⟨.unexpected, [.key m.1]⟩)

/-- The most rows that a caller wants; zero stands for all. -/
def limit : Decoder Int := fun v =>
  (int v).ensure (fun n => decide (0 ≤ n)) "Limit cannot be negative"

def compileRequest (shape : WrongShape) : Decoder CompileRequest :=
  let build (d : Definition) (engine : Option Sql.Dialect) (limit : Int)
      (isPreview checkVisibility fromSchedule : Bool) : CompileRequest :=
    { definition := d, engine := engine
      options :=
        { limit := limit, use := ⟨isPreview, fromSchedule⟩, checkVisibility := checkVisibility } }
  object (shape "CompileRequest") fun ms =>
    (build
      <$> required ms "definition" "definition" definition
      <*> optional ms "dialect" "dialect" (nullable (oneOf Sql.Dialect.named)) none
      <*> plain ms "limit" limit 0
      <*> plain ms "is_preview" bool false
      <*> plain ms "check_visibility" bool true
      <*> plain ms "from_schedule" bool false)
    <* knownOnly ["definition", "dialect", "limit", "is_preview", "check_visibility",
        "from_schedule"] ms

/-- A title without the blanks around it; one that is blank is refused. -/
def title : Decoder String := fun v =>
  ((text v).ensure (fun s => !(Text.trim s).isEmpty) "Report title cannot be empty").map Text.trim

def newReportRequest (shape : WrongShape) : Decoder NewReportRequest :=
  object (shape "DefaultStructureRequest") fun ms =>
    NewReportRequest.mk
      <$> required ms "type" "type" (oneOf ReportType.named)
      <*> required ms "title" "title" title
      <*> plain ms "description" text ""

/-- A request to sort a definition otherwise. -/
def sortingRequest (shape : WrongShape) : Decoder SortingRequest :=
  object (shape "SortingRequest") fun ms =>
    SortingRequest.mk
      <$> required ms "definition" "definition" definition
      <*> required ms "sorting" "sorting" sorting

end Decode
end LearningReports.Api
