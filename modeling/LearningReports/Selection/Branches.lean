import LearningReports.Definition.Basic
import LearningReports.Directory.Basic
import LearningReports.Selection.IdFilter

/-! # Members of branches

A selected branch stands for its members; one that is selected with its descendants stands for the
members of its whole subtree. The walk goes down level by level and asks for no branch twice. -/
namespace LearningReports.Selection

/-- How far a walk has come. -/
structure Walk where
  /-- The branches asked for so far. -/
  visited : List Int
  /-- The branches whose children belong to the selection. -/
  expanding : List Int
  members : List Int
  next : List Int := []
  deriving Repr, DecidableEq

namespace Walk

/-- The walk after one more branch of the present level. -/
def step (w : Walk) (b : BranchDetails) : Walk :=
  let w := { w with members := w.members ++ b.members }
  if b.id ∈ w.expanding then
    let children := b.children.filter fun c => !w.visited.contains c
    { w with expanding := w.expanding ++ children, next := w.next ++ children }
  else w

def enter (w : Walk) (level : List Int) : Walk :=
  { w with visited := w.visited ++ level, next := [] }

def advance (w : Walk) (level : List Int) (found : List BranchDetails) : Walk :=
  found.foldl step (w.enter level)

end Walk

variable {m : Type → Type} [Monad m]

/-- The members found from a level on, with at most so many levels. -/
def walkFrom (dir : Directory m) : Nat → Walk → List Int → m (List Int)
  | 0, w, _ => pure w.members
  | fuel + 1, w, level =>
    if level.isEmpty then pure w.members
    else do
      let w := w.advance level (← dir.branches level)
      walkFrom dir fuel w (sortedIds w.next)

def withDescendants (branches : List SelectedItem) : List Int :=
  selectedIds (branches.filter (·.descendants))

/-- The members of the selected branches. Every level but the last finds a branch for the first
time, so the levels are at most one more than the branches. -/
def branchMembers (dir : Directory m) (branches : List SelectedItem) : m (List Int) := do
  let bound ← dir.branchBound
  walkFrom dir (bound + 2)
    { visited := [], expanding := withDescendants branches, members := [] }
    (sortedIds (selectedIds branches))

end LearningReports.Selection
