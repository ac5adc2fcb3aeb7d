import LearningReports.Failure
import LearningReports.Json.Shown
import LearningReports.Number.Integer

/-! # Loosely typed access

Payloads of the directory and of legacy reports have no fixed shape. Each way of using a value that
its type does not offer is a failure of its own. -/
namespace LearningReports.Json

/-- The members of an object. -/
def members : Json → Outcome (List (String × Json))
  | .obj ms => .ok ms
  | _ => .error .noSuchAttribute

/-- The member of an object under a key, or a default when the key is missing. -/
def memberOr (v : Json) (key : String) (default : Json) : Outcome Json :=
  v.members.map fun ms => (lookup? key ms).getD default

/-- The member of an object under a key, or null when the key is missing. -/
def memberOrNull (v : Json) (key : String) : Outcome Json := v.memberOr key .null

/-- The value when it counts as present, else a default. -/
def orDefault (v default : Json) : Json := if v.isPresent then v else default

/-- The object without members. -/
def noMembers : Json := .obj []

/-- What a value yields when it is gone through: items, characters or keys. -/
def elements : Json → Outcome (List Json)
  | .arr items => .ok items
  | .str s => .ok (s.toList.map fun c => .str (String.singleton c))
  | .obj ms => .ok (ms.map fun (k, _) => .str k)
  | _ => .error .wrongType

/-- The elements of a value; an absent value has none. -/
def elementsIfPresent (v : Json) : Outcome (List Json) :=
  if v.isPresent then v.elements else .ok []

/-- The text of a value, where calls may nest only so deep. -/
def textWithin (room : Nat) (v : Json) : Outcome String :=
  if v.nesting ≤ room then .ok v.asText else .error .tooDeep

/-- The integer that a number, a boolean or a text denotes. Fractions are cut off. -/
def toInteger : Json → Outcome Int
  | .int n => .ok n
  | .bool b => .ok (if b then 1 else 0)
  | .float .nan => .error .integerOfNaN
  | .float (.infinite _) => .error .integerOfInfinity
  | .float (.finite negative m e) =>
    .ok (Number.withSign negative (Number.Binary64.truncate m e))
  | .str s =>
    match Number.readInteger s with
    | .ok n => .ok n
    | .error .malformed => .error (.unreadableInteger (Text.shown s))
    | .error (.tooLong digits) => .error (.oversizedInteger digits)
  | .null | .arr _ | .obj _ => .error .wrongType

/-- Lists and objects are no keys. -/
def isKey : Json → Bool
  | .arr _ | .obj _ => false
  | _ => true

/-- The length of a value that can be gone through and one of its two halves, as text of a failure.
-/
def pairOf (position : Nat) (v : Json) : Outcome (String × Json) :=
  match v.elements with
  | .ok [k, a] => if k.isKey then .ok (k.asText, a) else .error .wrongType
  | .ok parts => .error (.value ("dictionary update sequence element #" ++ toString position
      ++ " has length " ++ toString parts.length ++ "; 2 is required"))
  | .error _ => .error .wrongType

/-- The pairs of a list of pairs, from a position on. -/
def pairsFrom : Nat → List Json → Outcome (List (String × Json))
  | _, [] => .ok []
  | i, v :: vs => do
    let pair ← pairOf i v
    let rest ← pairsFrom (i + 1) vs
    return pair :: rest

/-- The members of an object, or the pairs of a list of pairs; of several with one key the last
value stands. -/
def pairs : Json → Outcome (List (String × Json))
  | .obj ms => .ok ms
  | v => do
    let listed ← pairsFrom 0 (← v.elements)
    return listed.foldl (fun done (k, a) => bindKey k a done) []

theorem textWithin_eq_ok_iff {room : Nat} {v : Json} {s : String} :
    v.textWithin room = .ok s ↔ v.nesting ≤ room ∧ v.asText = s := by
  rw [textWithin]
  split
  · simp [*]
  · simp [*]

@[simp] theorem toInteger_int (n : Int) : toInteger (.int n) = .ok n := rfl

@[simp] theorem members_obj (ms : List (String × Json)) : members (.obj ms) = .ok ms := rfl

end LearningReports.Json
