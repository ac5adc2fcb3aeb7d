import LearningReports.Json.Loose
import LearningReports.Sql.Dialect

/-! # Id filters

A filter admits every id or the ids of a list. The list is kept in increasing order without
repetitions, so equal filters are equal values; the empty list admits nothing. -/
namespace LearningReports

/-- Puts an id into an increasing list. -/
def insertId (n : Int) : List Int → List Int
  | [] => [n]
  | m :: ms => if n < m then n :: m :: ms else if n = m then m :: ms else m :: insertId n ms

/-- The ids of a list in increasing order, each once. -/
def sortedIds (ns : List Int) : List Int := ns.foldr insertId []

theorem mem_insertId {a n : Int} {ms : List Int} : a ∈ insertId n ms ↔ a = n ∨ a ∈ ms := by
  induction ms with
  | nil => simp [insertId]
  | cons m ms ih =>
    unfold insertId
    split
    · simp
    · split
      · subst_vars; simp
      · simp only [List.mem_cons, ih]
        exact or_left_comm

theorem mem_sortedIds {a : Int} {ns : List Int} : a ∈ sortedIds ns ↔ a ∈ ns := by
  induction ns with
  | nil => simp [sortedIds]
  | cons n ns ih =>
    have : sortedIds (n :: ns) = insertId n (sortedIds ns) := rfl
    rw [this, mem_insertId, ih, List.mem_cons]

theorem pairwise_insertId {n : Int} {ms : List Int} (h : ms.Pairwise (· < ·)) :
    (insertId n ms).Pairwise (· < ·) := by
  induction ms with
  | nil => exact List.pairwise_singleton _ _
  | cons m ms ih =>
    obtain ⟨hm, hms⟩ := List.pairwise_cons.mp h
    unfold insertId
    split
    · next hlt =>
      refine List.pairwise_cons.mpr ⟨fun a ha => ?_, h⟩
      rcases List.mem_cons.mp ha with rfl | ha
      · exact hlt
      · exact Int.lt_trans hlt (hm a ha)
    · split
      · exact h
      · next hge hne =>
        refine List.pairwise_cons.mpr ⟨fun a ha => ?_, ih hms⟩
        rcases mem_insertId.mp ha with rfl | ha
        · omega
        · exact hm a ha

theorem pairwise_sortedIds (ns : List Int) : (sortedIds ns).Pairwise (· < ·) := by
  induction ns with
  | nil => exact List.Pairwise.nil
  | cons n ns ih => exact pairwise_insertId ih

inductive IdFilter where
  | unrestricted
  | only (ids : List Int)
  deriving Repr, DecidableEq

namespace IdFilter

def nothing : IdFilter := .only []

def ofList (ids : List Int) : IdFilter := .only (sortedIds ids)

/-- The filter of ids that a loosely typed value yields. -/
def ofLoose (v : Json) : Outcome IdFilter := do
  return ofList (← (← v.elements).mapM Json.toInteger)

def admits (f : IdFilter) (id : Int) : Prop :=
  match f with
  | .unrestricted => True
  | .only ids => id ∈ ids

/-- The filter that admits what both filters admit. -/
def intersect (f g : IdFilter) : IdFilter :=
  match f, g with
  | .unrestricted, g => g
  | f, .unrestricted => f
  | .only as, .only bs => ofList (as.filter fun a => bs.contains a)

/-- The filter restricts nothing. -/
def isUnrestricted : IdFilter → Bool
  | .unrestricted => true
  | .only _ => false

def isNothing : IdFilter → Bool
  | .only [] => true
  | _ => false

def ids? : IdFilter → Option (List Int)
  | .unrestricted => none
  | .only ids => some ids

/-- The conditions that a column of ids has to keep: none, the false one, or membership. -/
def conditions (f : IdFilter) (column : Sql.Expr) : List Sql.Expr :=
  match f with
  | .unrestricted => []
  | .only [] => [.never]
  | .only ids => [.op .among column (.paren (.ids ids))]

/-- The ids with commas between them. -/
def text : IdFilter → String
  | .unrestricted => ""
  | .only ids => ",".intercalate (ids.map toString)

/-- The filter of a column of ids in text: nothing, or a condition after ` AND `. The wording is
the same for every engine. -/
def clause (f : IdFilter) (column : String) : String :=
  "".intercalate ((f.conditions (.raw column)).map fun e => " AND " ++ Sql.Dialect.athena.render e)

@[simp] theorem unrestricted_intersect (f : IdFilter) : intersect .unrestricted f = f := by
  cases f <;> rfl

@[simp] theorem intersect_unrestricted (f : IdFilter) : intersect f .unrestricted = f := by
  cases f <;> rfl

@[simp] theorem conditions_unrestricted (column : Sql.Expr) :
    conditions .unrestricted column = [] := rfl

@[simp] theorem conditions_nothing (column : Sql.Expr) : conditions nothing column = [.never] := rfl

end IdFilter
end LearningReports
