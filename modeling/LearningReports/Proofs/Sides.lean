import LearningReports.Proofs.Occurs
import LearningReports.Report.Query

/-! # The branches of a report

A query has a live branch, a branch of archived enrollments or both. -/
namespace LearningReports

open Sql (Fragment)
open Text (Occurs)

/-- The two branches that a report can have. -/
inductive Side where
  | live
  | archive
  deriving Repr, DecidableEq

def Base.side (b : Base) : Side → List Fragment
  | .live => b.live
  | .archive => b.archive

def Layout.branch (ctx : Context) : Side → Sql.Branch
  | .live => Layout.live ctx
  | .archive => Layout.archive ctx

theorem mem_when {α : Type} {condition : Bool} {as : List α} {a : α} :
    a ∈ when condition as ↔ condition = true ∧ a ∈ as := by
  cases condition <;> simp [when]

namespace Query

def emits (ctx : Context) : Side → Bool
  | .live => (choice ctx).live
  | .archive => (choice ctx).archive

theorem mem_branchesOf {ctx : Context} {b : Sql.Branch} :
    b ∈ branchesOf ctx ↔ ∃ side, emits ctx side = true ∧ b = Layout.branch ctx side := by
  simp only [branchesOf, List.mem_append, mem_when, List.mem_singleton]
  constructor
  · rintro (⟨h, rfl⟩ | ⟨h, rfl⟩)
    · exact ⟨.live, h, rfl⟩
    · exact ⟨.archive, h, rfl⟩
  · rintro ⟨side, h, rfl⟩
    cases side with
    | live => exact .inl ⟨h, rfl⟩
    | archive => exact .inr ⟨h, rfl⟩

def sides (ctx : Context) : List Side :=
  when (choice ctx).live [.live] ++ when (choice ctx).archive [.archive]

theorem branchesOf_eq (ctx : Context) : branchesOf ctx = (sides ctx).map (Layout.branch ctx) := by
  unfold branchesOf sides
  cases (choice ctx).live <;> cases (choice ctx).archive <;> rfl

theorem definitionsOf_eq (ctx : Context) : definitionsOf ctx =
    ((branchesOf ctx).map (·.definitions)).foldl merge [] := by
  rw [definitionsOf, List.foldl_map]

theorem supportsArchive_of_emits {ctx : Context} (h : emits ctx .archive = true) :
    ctx.type.supportsArchive = true := by
  change (choice ctx).archive = true at h
  unfold choice at h
  split at h
  · next harchive => exact ((Bool.and_eq_true _ _).mp harchive).1
  · cases h

theorem branchesOf_ne_nil (ctx : Context) : branchesOf ctx ≠ [] := by
  have hsome : (choice ctx).live = true ∨ (choice ctx).archive = true := by
    unfold choice
    split
    · next harchive =>
      have hplatform := ((Bool.and_eq_true _ _).mp harchive).2
      simp only [BranchChoice.ofDefinition, hplatform]
      cases BranchChoice.scopeOf ctx.definition <;> simp
    · exact .inl rfl
  rcases hsome with h | h <;> simp [branchesOf, when, h]

end Query

theorem occurs_renderQuery {engine : Sql.Dialect} {q : Query} {b : Sql.Branch}
    (h : b ∈ q.branches) : Occurs (engine.renderBranch b) (engine.renderQuery q) := by
  have hunion : Occurs (engine.renderBranch b)
      (" UNION ".intercalate (q.branches.map engine.renderBranch)) :=
    .intercalate (List.mem_map_of_mem h) (.refl _)
  exact .append_right _ (.append_right _ (.append_right _ (.append_left _ hunion)))

end LearningReports
