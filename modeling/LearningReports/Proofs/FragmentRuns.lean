import LearningReports.Proofs.FirstOccurrences
import LearningReports.Proofs.NamedQueries
import LearningReports.Proofs.Scopes
import Mathlib.Data.List.Forall2

/-! # Runs of fragments

What a branch is after a run of fragments, clause by clause and as text. Of the joins with one key
and of the definitions of one name the first counts, and of equal grouping keys; everything else
counts in the order of the run. -/
namespace LearningReports

namespace Sql

/-! ## First requests -/

namespace Fragment

/-- Two joins with one key, or two definitions of one name. -/
def repeats : Fragment → Fragment → Bool
  | .join key _, .join key' _ => key == key'
  | .define name _, .define name' _ => name == name'
  | _, _ => false

/-- The fragments of a run in their order, without the joins and definitions that repeat an
earlier one. -/
def firsts (fs : List Fragment) : List Fragment := fs.eraseDupsBy repeats

def groupKeys : Fragment → List Expr
  | .groupBy keys => keys
  | _ => []

theorem firsts_append_singleton (fs : List Fragment) (f : Fragment) :
    firsts (fs ++ [f]) = if (firsts fs).any f.repeats then firsts fs else firsts fs ++ [f] :=
  eraseDupsBy_append_singleton repeats fs f

theorem any_repeats_join (key : String) (ss : List Source) (fs : List Fragment) :
    fs.any (repeats (.join key ss)) = (fs.filterMap key?).contains key := by
  induction fs with
  | nil => rfl
  | cons f fs ih =>
    cases f with
    | join key' ss' =>
      rw [List.any_cons, ih]
      exact List.contains_cons.symm
    | _ => exact ih

theorem any_repeats_define (name : String) (body : Body) (fs : List Fragment) :
    fs.any (repeats (.define name body)) = (lookup? name (fs.filterMap defined?)).isSome := by
  induction fs with
  | nil => rfl
  | cons f fs ih =>
    cases f with
    | define name' body' =>
      change (name == name' || _) = (if name' = name then some body' else _).isSome
      rw [ih]
      split
      · next h => rw [h, beq_self_eq_true, Bool.true_or]; rfl
      · next h => rw [beq_false_of_ne (Ne.symm h), Bool.false_or]
    | _ => exact ih

theorem any_repeats_of_none {f : Fragment} (hkey : f.key? = none) (hdefined : f.defined? = none)
    (fs : List Fragment) : fs.any f.repeats = false := by
  refine List.any_eq_false.mpr fun g _ => ?_
  cases f with
  | join => cases hkey
  | define => cases hdefined
  | _ => exact Bool.false_ne_true

end Fragment

namespace Branch

open Fragment (firsts)

theorem ofFragments_append_singleton (fs : List Fragment) (f : Fragment) :
    ofFragments (fs ++ [f]) = (ofFragments fs).add f :=
  addAll_append empty fs [f]

/-- The sources, join keys and named queries of the branch are those of the first requests. -/
structure KeepsFirsts (b : Branch) (fs : List Fragment) : Prop where
  sources : b.sources = (firsts fs).flatMap Fragment.sources
  joinKeys : b.joinKeys = (firsts fs).filterMap Fragment.key?
  definitions : b.definitions = (firsts fs).filterMap Fragment.defined?

namespace KeepsFirsts

variable {b b' : Branch} {fs : List Fragment} {f : Fragment}

theorem of_repeated (h : b.KeepsFirsts fs) (hf : (firsts fs).any f.repeats = true) :
    b.KeepsFirsts (fs ++ [f]) := by
  have hsame : firsts (fs ++ [f]) = firsts fs := by
    rw [Fragment.firsts_append_singleton, if_pos hf]
  exact ⟨hsame ▸ h.sources, hsame ▸ h.joinKeys, hsame ▸ h.definitions⟩

theorem of_new (h : b.KeepsFirsts fs) (hf : (firsts fs).any f.repeats = false)
    (hsources : b'.sources = b.sources ++ f.sources)
    (hkeys : b'.joinKeys = b.joinKeys ++ f.key?.toList)
    (hdefinitions : b'.definitions = b.definitions ++ f.defined?.toList) :
    b'.KeepsFirsts (fs ++ [f]) := by
  have hmore : firsts (fs ++ [f]) = firsts fs ++ [f] := by
    rw [Fragment.firsts_append_singleton, hf]
    rfl
  constructor
  · rw [hsources, hmore, h.sources, List.flatMap_append, List.flatMap_singleton]
  · rw [hkeys, hmore, h.joinKeys, List.filterMap_append]
    cases hkey : f.key? <;> simp [hkey]
  · rw [hdefinitions, hmore, h.definitions, List.filterMap_append]
    cases hdefined : f.defined? <;> simp [hdefined]

/-- A fragment that is neither a join nor a definition repeats none. -/
theorem of_other (h : b.KeepsFirsts fs) (hkey : f.key? = none) (hdefined : f.defined? = none)
    (hsources : b'.sources = b.sources ++ f.sources) (hkeys : b'.joinKeys = b.joinKeys)
    (hdefinitions : b'.definitions = b.definitions) : b'.KeepsFirsts (fs ++ [f]) := by
  refine h.of_new (Fragment.any_repeats_of_none hkey hdefined _) hsources ?_ ?_
  · rw [hkey, hkeys, Option.toList_none, List.append_nil]
  · rw [hdefined, hdefinitions, Option.toList_none, List.append_nil]

theorem add (h : b.KeepsFirsts fs) (f : Fragment) : (b.add f).KeepsFirsts (fs ++ [f]) := by
  cases f with
  | join key ss =>
    have hany : (firsts fs).any (Fragment.repeats (.join key ss)) = b.hasJoin key := by
      rw [Fragment.any_repeats_join, ← h.joinKeys]
      rfl
    rw [Branch.add]
    split
    · next hkey => exact h.of_repeated (hany.trans hkey)
    · next hkey =>
      exact h.of_new (hany.trans (Bool.not_eq_true _ ▸ hkey)) rfl rfl (List.append_nil _).symm
  | define name body =>
    have hany : (firsts fs).any (Fragment.repeats (.define name body)) =
        (lookup? name b.definitions).isSome := by
      rw [Fragment.any_repeats_define, ← h.definitions]
    rw [Branch.add]
    split
    · next hname => exact h.of_repeated (hany.trans hname)
    · next hname =>
      exact h.of_new (hany.trans (Bool.not_eq_true _ ▸ hname)) (List.append_nil _).symm
        (List.append_nil _).symm rfl
  | restrict r =>
    rw [Branch.add]
    split <;> exact h.of_other rfl rfl (List.append_nil _).symm rfl rfl
  | source s => exact h.of_other rfl rfl rfl rfl rfl
  | select e a => exact h.of_other rfl rfl (List.append_nil _).symm rfl rfl
  | groupBy keys => exact h.of_other rfl rfl (List.append_nil _).symm rfl rfl

end KeepsFirsts

theorem add_groupBy (b : Branch) (f : Fragment) :
    (b.add f).groupBy = f.groupKeys.foldl addKey b.groupBy := by
  cases f <;> simp only [add, Fragment.groupKeys, List.foldl_nil] <;> (try split) <;> rfl

theorem groupBy_ofFragments (fs : List Fragment) :
    (ofFragments fs).groupBy = (fs.flatMap Fragment.groupKeys).eraseDups := by
  induction fs using List.reverseRecOn with
  | nil => rfl
  | append_singleton fs f ih =>
    rw [ofFragments_append_singleton, add_groupBy, ih, List.flatMap_append, List.flatMap_singleton]
    exact foldl_eraseDups (fun _ _ => rfl) _ _

end Branch

/-! ## The text of a run -/

namespace Dialect

open Fragment (firsts)

variable (d : Dialect)

end Dialect

namespace Branch

open Fragment (firsts)

end Branch
end Sql
end LearningReports
