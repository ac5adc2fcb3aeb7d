/-! # Issues found in a request

Validation goes on after the first issue; the issues of all fields are reported together, each with
the way from the outermost value to the place of the issue. -/
namespace LearningReports

/-- One step into a value. -/
inductive Step where
  | key (name : String)
  | index (i : Nat)
  deriving Repr, DecidableEq

/-- What is wrong with a value. -/
inductive IssueKind where
  | missing
  | unexpected
  | notText
  | notInteger
  | unreadableInteger
  | hasFraction
  | oversizedInteger
  | notFinite
  | notBoolean
  | unreadableBoolean
  | notList
  | notRecord
  | notObject
  | notModel (name : String)
  | notAllowed (choices : String)
  | rule (text : String)
  deriving Repr, DecidableEq

def IssueKind.code : IssueKind → String
  | .missing => "missing"
  | .unexpected => "extra_forbidden"
  | .notText => "string_type"
  | .notInteger => "int_type"
  | .unreadableInteger => "int_parsing"
  | .hasFraction => "int_from_float"
  | .oversizedInteger => "int_parsing_size"
  | .notFinite => "finite_number"
  | .notBoolean => "bool_type"
  | .unreadableBoolean => "bool_parsing"
  | .notList => "list_type"
  | .notRecord => "dict_type"
  | .notObject => "model_attributes_type"
  | .notModel _ => "model_type"
  | .notAllowed _ => "enum"
  | .rule _ => "value_error"

def IssueKind.message : IssueKind → String
  | .missing => "Field required"
  | .unexpected => "Extra inputs are not permitted"
  | .notText => "Input should be a valid string"
  | .notInteger => "Input should be a valid integer"
  | .unreadableInteger =>
    "Input should be a valid integer, unable to parse string as an integer"
  | .hasFraction => "Input should be a valid integer, got a number with a fractional part"
  | .oversizedInteger => "Unable to parse input string as an integer, exceeded maximum size"
  | .notFinite => "Input should be a finite number"
  | .notBoolean => "Input should be a valid boolean"
  | .unreadableBoolean => "Input should be a valid boolean, unable to interpret input"
  | .notList => "Input should be a valid list"
  | .notRecord => "Input should be a valid dictionary"
  | .notObject => "Input should be a valid dictionary or object to extract fields from"
  | .notModel name => "Input should be a valid dictionary or instance of " ++ name
  | .notAllowed choices => "Input should be " ++ choices
  | .rule text => "Value error, " ++ text

/-- An issue and its place. -/
structure Issue where
  kind : IssueKind
  path : List Step
  deriving Repr, DecidableEq

/-- A value or the issues that stand in its way, in order. -/
inductive Checked (α : Type) where
  | valid (value : α)
  | invalid (issues : List Issue)

namespace Checked

variable {α β : Type}

/-- The outcome with the value changed. -/
def map (f : α → β) : Checked α → Checked β
  | .valid a => .valid (f a)
  | .invalid issues => .invalid issues

/-- Two outcomes joined; the issues of both are kept. -/
def seq (f : Checked (α → β)) (x : Checked α) : Checked β :=
  match f, x with
  | .valid f, .valid a => .valid (f a)
  | .valid _, .invalid issues => .invalid issues
  | .invalid issues, .valid _ => .invalid issues
  | .invalid issues, .invalid others => .invalid (issues ++ others)

instance : Applicative Checked where
  pure := .valid
  map := map
  seq f x := seq f (x ())

/-- One issue at the present place. -/
def fail (kind : IssueKind) : Checked α := .invalid [⟨kind, []⟩]

/-- The outcome with its issues placed one step further in. -/
def «at» (step : Step) : Checked α → Checked α
  | .valid a => .valid a
  | .invalid issues => .invalid (issues.map fun i => { i with path := step :: i.path })

/-- A value that has to keep a rule besides. -/
def ensure (p : α → Bool) (text : String) : Checked α → Checked α
  | .valid a => if p a then .valid a else fail (.rule text)
  | .invalid issues => .invalid issues

@[simp] theorem map_valid (f : α → β) (a : α) : map f (.valid a) = .valid (f a) := rfl

@[simp] theorem seq_valid (f : α → β) (a : α) : seq (.valid f) (.valid a) = .valid (f a) := rfl

@[simp] theorem at_valid (step : Step) (a : α) : «at» step (.valid a) = .valid a := rfl

theorem seq_eq_valid_iff {f : Checked (α → β)} {x : Checked α} {b : β} :
    seq f x = .valid b ↔ ∃ g a, f = .valid g ∧ x = .valid a ∧ g a = b := by
  cases f <;> cases x <;> simp [seq]

end Checked
end LearningReports
