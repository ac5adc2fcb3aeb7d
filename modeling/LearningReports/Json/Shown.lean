import LearningReports.Json.Value
import LearningReports.Number.Shortest
import LearningReports.Text.Shown

/-! # Values shown as text

A loosely typed value that is used as a text shows itself: texts stand bare at the top and quoted
inside lists and records, the other values by their words and numbers. Integers are written out at
any length: only what reads them has a limit. -/
namespace LearningReports.Json

mutual

/-- The value as it stands inside a list, a record or a message. -/
def shown : Json → String
  | .null => "None"
  | .bool b => if b then "True" else "False"
  | .int n => toString n
  | .float x => x.text
  | .str s => Text.shown s
  | .arr items => "[" ++ ", ".intercalate (shownItems items) ++ "]"
  | .obj members => "\x7b" ++ ", ".intercalate (shownMembers members) ++ "\x7d"

def shownItems : List Json → List String
  | [] => []
  | v :: vs => shown v :: shownItems vs

def shownMembers : List (String × Json) → List String
  | [] => []
  | (k, v) :: rest => (Text.shown k ++ ": " ++ shown v) :: shownMembers rest

end

/-- The value as a text of its own. -/
def asText : Json → String
  | .str s => s
  | v => shown v

@[simp] theorem asText_str (s : String) : asText (.str s) = s := rfl

end LearningReports.Json
