import LearningReports.Sql.Branch

/-! # From fragments to branches

Each clause of a branch as a list made from its fragments. -/
namespace LearningReports.Sql

namespace Fragment

def selected? : Fragment → Option (Expr × Expr)
  | .select e a => some (e, a)
  | _ => none

def restriction? : Fragment → Option Restriction
  | .restrict r => if r.isVoid then none else some r
  | _ => none

end Fragment

namespace Branch

theorem add_select (b : Branch) (f : Fragment) :
    (b.add f).select = b.select ++ f.selected?.toList := by
  cases f <;> simp only [add, Fragment.selected?, Option.toList] <;> (try split) <;> simp

theorem add_restrictions (b : Branch) (f : Fragment) :
    (b.add f).restrictions = b.restrictions ++ f.restriction?.toList := by
  cases f <;> simp only [add, Fragment.restriction?] <;> (try split) <;> simp

theorem addAll_select (b : Branch) (fs : List Fragment) :
    (b.addAll fs).select = b.select ++ fs.filterMap Fragment.selected? := by
  induction fs generalizing b with
  | nil => simp
  | cons f fs ih =>
    rw [addAll_cons, ih, add_select, List.append_assoc]
    cases h : f.selected? <;> simp [h]

theorem addAll_restrictions (b : Branch) (fs : List Fragment) :
    (b.addAll fs).restrictions = b.restrictions ++ fs.filterMap Fragment.restriction? := by
  induction fs generalizing b with
  | nil => simp
  | cons f fs ih =>
    rw [addAll_cons, ih, add_restrictions, List.append_assoc]
    cases h : f.restriction? <;> simp [h]

theorem addAll_of_selections {fs : List Fragment} (h : ∀ f ∈ fs, f.selected?.isSome = true)
    (b : Branch) :
    b.addAll fs = { b with select := b.select ++ fs.filterMap Fragment.selected? } := by
  induction fs generalizing b with
  | nil => simp
  | cons f fs ih =>
    rw [addAll_cons, ih fun g hg => h g (List.mem_cons_of_mem _ hg)]
    cases f with
    | select e a => simp [add, Fragment.selected?]
    | _ => cases h _ List.mem_cons_self

theorem add_sources (b : Branch) (f : Fragment) : b.sources ⊆ (b.add f).sources := by
  cases f <;> simp only [add] <;> (try split) <;> simp

theorem addAll_sources (b : Branch) (fs : List Fragment) :
    b.sources ⊆ (b.addAll fs).sources := by
  induction fs generalizing b with
  | nil => exact List.Subset.refl _
  | cons f fs ih => exact List.Subset.trans (add_sources b f) (ih _)

theorem mem_addAll_sources {b : Branch} {fs : List Fragment} {s : Source}
    (h : .source s ∈ fs) : s ∈ (b.addAll fs).sources := by
  induction fs generalizing b with
  | nil => exact absurd h List.not_mem_nil
  | cons f fs ih =>
    rcases List.mem_cons.mp h with rfl | h
    · exact addAll_sources (b.add (.source s)) fs
        (List.mem_append_right _ (List.mem_singleton.mpr rfl))
    · exact ih h

@[simp] theorem select_ofFragments (fs : List Fragment) :
    (ofFragments fs).select = fs.filterMap Fragment.selected? :=
  addAll_select empty fs

@[simp] theorem restrictions_ofFragments (fs : List Fragment) :
    (ofFragments fs).restrictions = fs.filterMap Fragment.restriction? :=
  addAll_restrictions empty fs

theorem mem_sources_ofFragments {fs : List Fragment} {s : Source} (h : .source s ∈ fs) :
    s ∈ (ofFragments fs).sources :=
  mem_addAll_sources h

theorem mem_restrictions_ofFragments {fs : List Fragment} {e : Expr}
    (h : .restrict (.and e) ∈ fs) : .and e ∈ (ofFragments fs).restrictions := by
  rw [restrictions_ofFragments]
  exact List.mem_filterMap.mpr ⟨_, h, rfl⟩

end Branch
end LearningReports.Sql
