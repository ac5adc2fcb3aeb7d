import LearningReports.Number.Binary64

/-! # JSON values

Objects keep their members in the order of first appearance and hold each key once. -/
namespace LearningReports

inductive Json where
  | null
  | bool (b : Bool)
  | int (n : Int)
  | float (x : Number.Binary64)
  | str (s : String)
  | arr (items : List Json)
  | obj (members : List (String × Json))
  deriving Repr, Inhabited

def lookup? {α : Type} (key : String) : List (String × α) → Option α
  | [] => none
  | (k, v) :: rest => if k = key then some v else lookup? key rest

/-- The pairs with a key bound to a new value: in place when it is there, else at the end. -/
def bindKey {α : Type} (key : String) (value : α) : List (String × α) → List (String × α)
  | [] => [(key, value)]
  | (k, v) :: rest => if k = key then (k, value) :: rest else (k, v) :: bindKey key value rest

@[simp] theorem lookup?_nil {α : Type} (key : String) :
    lookup? key ([] : List (String × α)) = none := rfl

theorem lookup?_append {α : Type} (key : String) (pairs more : List (String × α)) :
    lookup? key (pairs ++ more) = (lookup? key pairs).or (lookup? key more) := by
  induction pairs with
  | nil => rfl
  | cons p pairs ih =>
    by_cases h : p.1 = key
    · simp [lookup?, h]
    · simp [lookup?, h, ih]

theorem mem_of_lookup? {α : Type} {key : String} {value : α} {pairs : List (String × α)}
    (h : lookup? key pairs = some value) : (key, value) ∈ pairs := by
  induction pairs with
  | nil => cases h
  | cons p rest ih =>
    unfold lookup? at h
    split at h
    · next hkey =>
      cases h
      rw [← hkey]
      exact .head _
    · exact .tail _ (ih h)

theorem lookup?_bindKey_self {α : Type} (key : String) (value : α) (pairs : List (String × α)) :
    lookup? key (bindKey key value pairs) = some value := by
  induction pairs with
  | nil => simp [bindKey, lookup?]
  | cons p rest ih => by_cases h : p.1 = key <;> simp [bindKey, lookup?, h, ih]

theorem lookup?_bindKey_ne {α : Type} {key other : String} (hne : other ≠ key) (value : α)
    (pairs : List (String × α)) : lookup? other (bindKey key value pairs) = lookup? other pairs := by
  induction pairs with
  | nil => simp [bindKey, lookup?, Ne.symm hne]
  | cons p rest ih =>
    by_cases h : p.1 = key
    · simp [bindKey, lookup?, h, Ne.symm hne]
    · simp [bindKey, lookup?, h, ih]

theorem mem_bindKey {α : Type} {key : String} {value : α} {pairs : List (String × α)}
    {p : String × α} (h : p ∈ bindKey key value pairs) : p = (key, value) ∨ p ∈ pairs := by
  induction pairs with
  | nil => exact .inl (List.mem_singleton.mp h)
  | cons q rest ih =>
    unfold bindKey at h
    split at h
    · next hkey =>
      rw [hkey] at h
      exact (List.mem_cons.mp h).imp id (.tail _)
    · rcases List.mem_cons.mp h with rfl | h
      · exact .inr (.head _)
      · exact (ih h).imp id (.tail _)

namespace Json

/-- The member of an object; none for a missing key and for every other value. -/
def member? (key : String) : Json → Option Json
  | .obj members => lookup? key members
  | _ => none

def text? : Json → Option String
  | .str s => some s
  | _ => none

/-- The items of an array. -/
def items? : Json → Option (List Json)
  | .arr items => some items
  | _ => none

/-- Null, false, zero, and empty texts, arrays and objects count as absent. -/
def isPresent : Json → Bool
  | .null => false
  | .bool b => b
  | .int n => n != 0
  | .float x => !x.isZero
  | .str s => !s.isEmpty
  | .arr items => !items.isEmpty
  | .obj members => !members.isEmpty

/-- The value itself when it counts as present. -/
def present? (v : Json) : Option Json := if v.isPresent then some v else none

/-- An array of texts. -/
def texts (ss : List String) : Json := .arr (ss.map .str)

mutual

/-- How many calls it takes to go from a value down to its innermost parts. -/
def nesting : Json → Nat
  | .arr items => nestingOfItems items
  | .obj members => nestingOfMembers members
  | _ => 0

def nestingOfItems : List Json → Nat
  | [] => 0
  | v :: vs => max (nesting v + 1) (nestingOfItems vs)

def nestingOfMembers : List (String × Json) → Nat
  | [] => 0
  | (_, v) :: rest => max (nesting v + 1) (nestingOfMembers rest)

end

/-- How deep calls may usually nest. -/
def usualNesting : Nat := 1000

end Json
end LearningReports
