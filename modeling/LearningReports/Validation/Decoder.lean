import LearningReports.Json.Value
import LearningReports.Number.Integer
import LearningReports.Number.Shortest
import LearningReports.Validation.Issue

/-! # Decoders

A decoder turns a loosely typed value into a value of a type or into issues. Integers and booleans
are also taken from texts and from numbers that denote them. -/
namespace LearningReports

/-- Reads a value of a type. -/
abbrev Decoder (α : Type) := Json → Checked α

/-- The members of an object. -/
abbrev Members := List (String × Json)

/-- The issue of a value that is no record, by the name of the record that should be there. -/
abbrev WrongShape := String → IssueKind

/-- Inside the program the issue names the record. -/
def WrongShape.named : WrongShape := .notModel

/-- On the network the issue speaks of objects. -/
def WrongShape.anonymous : WrongShape := fun _ => .notObject

namespace Decode

variable {α : Type}

/-- The least and the greatest whole float that is taken lie strictly between these bounds. -/
def wholeBound : Int := Int.pow 2 63

/-- The integer has a machine word of its own. -/
def fitsWord (n : Int) : Bool := -wholeBound ≤ n && n < wholeBound

/-- A float without a fraction as an integer. -/
def ofFloat : Number.Binary64 → Checked Int
  | .nan | .infinite _ => .fail .notFinite
  | .finite negative m e =>
    if !Number.Binary64.isWhole m e then .fail .hasFraction
    else
      let n := Number.withSign negative (Number.Binary64.truncate m e)
      if -wholeBound < n && n < wholeBound then .valid n else .fail .oversizedInteger

/-- An integer, also from a boolean, a float without a fraction, or a text. -/
def int : Decoder Int
  | .int n => .valid n
  | .bool b => .valid (if b then 1 else 0)
  | .float x => ofFloat x
  | .str s =>
    match Number.readPlainInteger s with
    | .ok n => .valid n
    | .error (.tooLong _) => .fail .oversizedInteger
    | .error .malformed => .fail .unreadableInteger
  | _ => .fail .notInteger

/-- The words for true and for false, in small letters. -/
def booleanWords : List (String × Bool) := [
  ("0", false), ("off", false), ("f", false), ("false", false), ("n", false), ("no", false),
  ("1", true), ("on", true), ("t", true), ("true", true), ("y", true), ("yes", true)]

/-- A number that denotes a boolean. Numbers without a machine word count as another type. -/
def booleanOfNumber (n : Int) : Checked Bool :=
  if n = 0 then .valid false
  else if n = 1 then .valid true
  else if fitsWord n then .fail .unreadableBoolean
  else .fail .notBoolean

/-- A boolean, also from zero and one and from the words for true and false in any letter case. -/
def bool : Decoder Bool
  | .bool b => .valid b
  | .int n => booleanOfNumber n
  | .float x =>
    match ofFloat x with
    | .valid n => booleanOfNumber n
    | .invalid _ => .fail .notBoolean
  | .str s =>
    match lookup? (String.ofList (s.toList.map Char.toLower)) booleanWords with
    | some b => .valid b
    | none => .fail .unreadableBoolean
  | _ => .fail .notBoolean

def text : Decoder String
  | .str s => .valid s
  | _ => .fail .notText

/-- A text, also from a number. -/
def textOrNumber : Decoder String
  | .str s => .valid s
  | .int n => .valid (toString n)
  | .float x => .valid x.text
  | _ => .fail .notText

/-- A value or null. -/
def nullable (d : Decoder α) : Decoder (Option α)
  | .null => .valid none
  | v => (d v).map some

def itemsFrom (d : Decoder α) : Nat → List Json → Checked (List α)
  | _, [] => .valid []
  | i, v :: vs => ((((d v).at (.index i)).map fun a as => a :: as).seq (itemsFrom d (i + 1) vs))

def list (d : Decoder α) : Decoder (List α)
  | .arr items => itemsFrom d 0 items
  | _ => .fail .notList

/-- The entries of a table of integers; of several entries with one key the last stands. -/
def integerEntries : Members → Checked (List (Int × Int))
  | [] => .valid []
  | (k, v) :: rest =>
    ((((int (.str k)).at (.key "[key]")).at (.key k)).map fun n m entries => (n, m) :: entries).seq
      ((int v).at (.key k)) |>.seq (integerEntries rest)

/-- Pairs with each key once: the first place and the last value. -/
def mergeEntries (entries : List (Int × Int)) : List (Int × Int) :=
  let put (done : List (Int × Int)) (e : Int × Int) : List (Int × Int) :=
    if done.any (·.1 == e.1) then done.map fun d => if d.1 == e.1 then e else d
    else done ++ [e]
  entries.foldl put []

def integerTable : Decoder (List (Int × Int))
  | .obj members => (integerEntries members).map mergeEntries
  | _ => .fail .notRecord

/-- The names of a family of values, as a message lists them. -/
def listed : List String → String
  | [] => ""
  | [a] => a
  | [a, b] => a ++ " or " ++ b
  | a :: rest => a ++ ", " ++ listed rest

/-- One of a family of named values. -/
def oneOf (family : List (String × α)) : Decoder α
  | .str s =>
    match lookup? s family with
    | some a => .valid a
    | none => .fail (.notAllowed (listed (family.map fun (name, _) => "'" ++ name ++ "'")))
  | _ => .fail (.notAllowed (listed (family.map fun (name, _) => "'" ++ name ++ "'")))

/-- The issue of a value that is not one of a family of numbered values. -/
def notNumbered (family : List (Int × α)) : Checked α :=
  .fail (.notAllowed (listed (family.map fun (i, _) => toString i)))

/-- One of a family of numbered values. Numbers without a machine word have an issue of their own.
-/
def oneOfNumbered (family : List (Int × α)) : Decoder α := fun v =>
  match int v with
  | .valid n =>
    if !fitsWord n then .fail .oversizedInteger
    else
      match family.find? (·.1 == n) with
      | some (_, a) => .valid a
      | none => notNumbered family
  | .invalid _ => notNumbered family

/-- The member under the first of two names that is there, with that name. -/
def member? (members : Members) (name alternative : String) : Option (String × Json) :=
  match lookup? name members with
  | some v => some (name, v)
  | none => (lookup? alternative members).map fun v => (alternative, v)

/-- A member that has to be there. Its issues stand under the name that it was found by. -/
def required (members : Members) (name alternative : String) (d : Decoder α) : Checked α :=
  match member? members name alternative with
  | some (found, v) => (d v).at (.key found)
  | none => (Checked.fail .missing : Checked α).at (.key name)

def optional (members : Members) (name alternative : String) (d : Decoder α) (default : α) :
    Checked α :=
  match member? members name alternative with
  | some (found, v) => (d v).at (.key found)
  | none => .valid default

/-- An object, or the given issue for every other value. -/
def object (kind : IssueKind) (d : Members → Checked α) : Decoder α
  | .obj members => d members
  | _ => .fail kind

end Decode
end LearningReports
