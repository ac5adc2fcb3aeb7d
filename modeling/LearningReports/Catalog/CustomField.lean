import LearningReports.Failure
import LearningReports.Number.Integer

/-! # Custom fields

Administrators define fields of their own on five kinds of entities. A report names one by the
entity, the infix `_extrafield_` and the number of the field. -/
namespace LearningReports

inductive Entity where
  | user
  | course
  | enrollment
  | session
  | plan
  deriving Repr, DecidableEq

namespace Entity

def name : Entity → String
  | .user => "user"
  | .course => "course"
  | .enrollment => "courseuser"
  | .session => "ilt"
  | .plan => "lp"

/-- All kinds of entities. -/
def all : List Entity := [.user, .course, .enrollment, .session, .plan]

theorem mem_all (e : Entity) : e ∈ all := by cases e <;> decide

def ofName? (s : String) : Option Entity := all.find? (·.name == s)

/-- The kind of entity with a given name, or the failure that names it. -/
def ofName (shown : String) (s : Option String) : Outcome Entity :=
  match s.bind ofName? with
  | some e => .ok e
  | none => .error (.notMember shown "ExtraFieldEntity")

end Entity

structure CustomField where
  entity : Entity
  number : Nat
  deriving Repr, DecidableEq

namespace CustomField

/-- What stands between the entity and the number. -/
def infixText : String := "_extrafield_"

def keyStart (e : Entity) : String := e.name ++ infixText

/-- The key of a number among an entity's fields; numbers below zero name no field. -/
def keyOf (e : Entity) (number : Int) : String := keyStart e ++ toString number

def key (f : CustomField) : String := keyOf f.entity f.number

/-- The text after a given beginning. -/
def afterStart? : List Char → List Char → Option (List Char)
  | [], cs => some cs
  | _ :: _, [] => none
  | w :: ws, c :: cs => if w = c then afterStart? ws cs else none

/-- The values of digits that fill a text, which may end in one line break. -/
def numberDigits? (cs : List Char) : Option (List Nat) :=
  let body := match cs.reverse with
    | '\n' :: rest => rest.reverse
    | _ => cs
  if body.isEmpty then none else body.mapM Text.digitValue?

/-- The entity and the digits that a text writes. -/
def parts? (s : String) : Option (Entity × List Nat) :=
  Entity.all.findSome? fun e =>
    ((afterStart? (keyStart e).toList s.toList).bind numberDigits?).map fun ds => (e, ds)

/-- The custom field that a selection names; none for every other text. -/
def parse (s : String) : Outcome (Option CustomField) :=
  match parts? s with
  | none => .ok none
  | some (e, ds) =>
    if ds.length > Number.digitLimit then .error (.oversizedInteger ds.length)
    else .ok (some ⟨e, Text.ofDigits ds⟩)

theorem parse_eq_none {s : String} (h : parts? s = none) : parse s = .ok none := by
  simp [parse, h]

end CustomField
end LearningReports
