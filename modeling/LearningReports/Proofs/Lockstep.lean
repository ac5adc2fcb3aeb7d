import LearningReports.Proofs.Returns
import Mathlib.Data.List.Forall2

/-! # Actions in lockstep

Two actions that ask a service for the same go well or fail together. What they return is related,
and so is what is done with it. -/
namespace LearningReports

open MonadAttach (CanReturn)

variable {m : Type → Type} [Monad m] [MonadExceptOf Failure m] [MonadAttach m]

/-- Two actions that ask for the same, do the same and return related values. -/
def Together {α β : Type} (x : m α) (y : m β) (R : α → β → Prop) : Prop :=
  ∃ both : m (α × β), Prod.fst <$> both = x ∧ Prod.snd <$> both = y ∧
    ∀ p, CanReturn both p → R p.1 p.2

theorem Together.of_ok {α β : Type} {x : Outcome α} {y : Outcome β} {R : α → β → Prop} {a : α}
    {b : β} (h : Together x y R) (hx : x = .ok a) (hy : y = .ok b) : R a b := by
  obtain ⟨both, hfst, hsnd, hboth⟩ := h
  subst hx hy
  cases both with
  | error e => cases hfst
  | ok p =>
    cases hfst
    cases hsnd
    exact hboth p rfl

variable [LawfulService m] {α β γ δ : Type}

/-- What follows an action matters only for the values that it can return. -/
theorem bind_congr_of_canReturn {x : m α} {f g : α → m β} (h : ∀ a, CanReturn x a → f a = g a) :
    x >>= f = x >>= g := by
  rw [← WeaklyLawfulMonadAttach.attach_bind_val (f := f),
    ← WeaklyLawfulMonadAttach.attach_bind_val (f := g)]
  exact bind_congr fun a => h a.1 a.2

namespace Together

variable {x : m α} {y : m β} {R R' : α → β → Prop} {S : γ → δ → Prop}

omit [MonadExceptOf Failure m] [LawfulService m] in
theorem imp (h : Together x y R) (hR : ∀ a b, R a b → R' a b) : Together x y R' := by
  obtain ⟨both, hfst, hsnd, hboth⟩ := h
  exact ⟨both, hfst, hsnd, fun p hp => hR _ _ (hboth p hp)⟩

theorem of_map (x : m α) {f : α → γ} {g : α → δ} (h : ∀ a, CanReturn x a → S (f a) (g a)) :
    Together (f <$> x) (g <$> x) S := by
  refine ⟨(fun a => (f a, g a)) <$> x, by simp, by simp, fun p hp => ?_⟩
  obtain ⟨a, ha, rfl⟩ := LawfulMonadAttach.canReturn_map_imp' hp
  exact h a ha

theorem refl (x : m α) {R : α → α → Prop} (h : ∀ a, CanReturn x a → R a a) : Together x x R := by
  simpa using of_map x (f := id) (g := id) h

theorem pure {a : α} {b : β} (h : R a b) : Together (Pure.pure a : m α) (Pure.pure b) R := by
  refine ⟨Pure.pure (a, b), by simp, by simp, fun p hp => ?_⟩
  cases Returns.of_pure hp
  exact h

theorem throw (e : Failure) (R : α → β → Prop) : Together (throw e : m α) (throw e) R := by
  have hmap {γ δ : Type} (f : γ → δ) : f <$> (MonadExcept.throw e : m γ) = MonadExcept.throw e := by
    rw [map_eq_pure_bind, LawfulService.throw_bind]
  exact ⟨MonadExcept.throw e, hmap _, hmap _, fun p hp => absurd hp Returns.not_throw⟩

theorem bind {f : α → m γ} {g : β → m δ} (h : Together x y R)
    (hnext : ∀ a b, R a b → Together (f a) (g b) S) : Together (x >>= f) (y >>= g) S := by
  obtain ⟨both, rfl, rfl, hboth⟩ := h
  have hpairs (p : { p // CanReturn both p }) : ∃ next : m (γ × δ), Prod.fst <$> next = f p.1.1 ∧
      Prod.snd <$> next = g p.1.2 ∧ ∀ q, CanReturn next q → S q.1 q.2 :=
    hnext _ _ (hboth p.1 p.2)
  choose next hfst hsnd hS using hpairs
  refine ⟨MonadAttach.attach both >>= next, ?_, ?_, fun q hq => ?_⟩
  · rw [map_bind, bind_map_left, ← WeaklyLawfulMonadAttach.attach_bind_val (x := both)]
    exact bind_congr hfst
  · rw [map_bind, bind_map_left, ← WeaklyLawfulMonadAttach.attach_bind_val (x := both)]
    exact bind_congr hsnd
  · obtain ⟨p, -, hp⟩ := Returns.of_bind hq
    exact hS p q hp

theorem map {f : α → γ} {g : β → δ} (h : Together x y R) (hS : ∀ a b, R a b → S (f a) (g b)) :
    Together (f <$> x) (g <$> y) S := by
  rw [map_eq_pure_bind, map_eq_pure_bind]
  exact h.bind fun a b hab => .pure (hS a b hab)

theorem foldlM {V : γ → δ → Prop} {f : γ → α → m γ} {g : δ → β → m δ} {as : List α} {bs : List β}
    (has : List.Forall₂ R as bs)
    (hstep : ∀ c d a b, R a b → V c d → Together (f c a) (g d b) V) {c : γ} {d : δ} (hV : V c d) :
    Together (as.foldlM f c) (bs.foldlM g d) V := by
  induction has generalizing c d with
  | nil => exact .pure hV
  | cons hab _ ih =>
    rw [List.foldlM_cons, List.foldlM_cons]
    exact (hstep _ _ _ _ hab hV).bind fun _ _ hV' => ih hV'

theorem lift {x : Outcome α} {y : Outcome β} (h : Together x y R) :
    Together (x.lift : m α) y.lift R := by
  obtain ⟨both, rfl, rfl, hboth⟩ := h
  cases both with
  | error e => exact .throw e R
  | ok p => exact .pure (hboth p rfl)

theorem eq {x y : m α} (h : Together x y Eq) : x = y := by
  obtain ⟨both, rfl, rfl, hboth⟩ := h
  rw [map_eq_pure_bind, map_eq_pure_bind]
  refine bind_congr_of_canReturn fun p hp => ?_
  rw [hboth p hp]

end Together
end LearningReports
