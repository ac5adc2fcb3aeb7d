import LearningReports.Directory.Basic
import Mathlib.Data.List.Forall2

/-! # What a directory's actions return

Whether the directory answers from records or over a network, an action can return some values and
not others. A failed action returns nothing, so whatever came before a returned value went well. -/
namespace LearningReports

open MonadAttach (CanReturn)

instance instMonadAttachExcept {ε : Type} : MonadAttach (Except ε) where
  CanReturn x a := x = .ok a
  attach x := match x with
    | .ok a => .ok ⟨a, rfl⟩
    | .error e => .error e

instance instLawfulMonadAttachExcept {ε : Type} : LawfulMonadAttach (Except ε) where
  map_attach {_ x} := by cases x <;> rfl
  canReturn_map_imp {α P x a} h := by
    cases x with
    | error e => cases h
    | ok b =>
      cases h
      exact b.property

/-- Actions that follow the laws of monads, and go no further once they have failed. -/
class LawfulService (m : Type → Type) [Monad m] [MonadExceptOf Failure m] [MonadAttach m] : Prop
    extends LawfulMonad m, LawfulMonadAttach m where
  throw_bind {α β : Type} (e : Failure) (f : α → m β) : (throw e >>= f) = throw e

instance : LawfulService Outcome where
  throw_bind _ _ := rfl

instance {σ : Type} : LawfulService (ExceptT Failure (StateM σ)) where
  throw_bind _ _ := rfl

namespace Returns

variable {m : Type → Type} [Monad m] [MonadExceptOf Failure m] [MonadAttach m] [LawfulService m]
variable {α β : Type}

theorem of_pure {a b : α} (h : CanReturn (pure a : m α) b) : b = a :=
  (LawfulMonadAttach.eq_of_canReturn_pure h).symm

theorem of_bind {x : m α} {f : α → m β} {b : β} (h : CanReturn (x >>= f) b) :
    ∃ a, CanReturn x a ∧ CanReturn (f a) b :=
  LawfulMonadAttach.canReturn_bind_imp' h

theorem not_throw {e : Failure} {a : α} : ¬CanReturn (throw e : m α) a := by
  intro h
  rw [← LawfulService.throw_bind e (Empty.elim : Empty → m α)] at h
  obtain ⟨x, -, -⟩ := of_bind h
  exact x.elim

theorem of_lift {x : Outcome α} {a : α} (h : CanReturn (x.lift : m α) a) : x = .ok a := by
  cases x with
  | error e => exact absurd h not_throw
  | ok b => exact congrArg Except.ok (of_pure h).symm

end Returns

/-! ## Runs on a state -/

section Runs

variable {σ α β : Type} {a : ExceptT Failure (StateM σ) α} {s : σ}

/-- The outcome of an action on a state, and the state behind it. -/
def runOn (a : ExceptT Failure (StateM σ) α) (s : σ) : Outcome α × σ := StateT.run (ExceptT.run a) s

theorem runOn_bind_of_ok {f : α → ExceptT Failure (StateM σ) β} {x : α} {next : σ}
    (h : runOn a s = (.ok x, next)) : runOn (a >>= f) s = runOn (f x) next := by
  unfold runOn StateT.run ExceptT.run at h ⊢
  simp only [bind, ExceptT.bind, ExceptT.mk, StateT.bind, h]
  rfl

theorem runOn_bind_of_error {f : α → ExceptT Failure (StateM σ) β} {e : Failure} {next : σ}
    (h : runOn a s = (.error e, next)) : runOn (a >>= f) s = (.error e, next) := by
  unfold runOn StateT.run ExceptT.run at h ⊢
  simp only [bind, ExceptT.bind, ExceptT.mk, StateT.bind, h]
  rfl

theorem runOn_lift (o : Outcome α) :
    runOn (o.lift : ExceptT Failure (StateM σ) α) s = (o, s) := by
  cases o <;> rfl

theorem runOn_bind_lift {o : Outcome α} {next : σ} (h : runOn a s = (o, next))
    (f : α → Outcome β) :
    runOn (a >>= fun x => ((f x).lift : ExceptT Failure (StateM σ) β)) s = (o >>= f, next) := by
  cases o with
  | ok x => rw [runOn_bind_of_ok h, runOn_lift]; rfl
  | error e => exact runOn_bind_of_error h

theorem runOn_bind_pure (f : α → β) :
    runOn (a >>= fun x => pure (f x)) s = (runOn a s).map (Except.map f) id := by
  cases h : runOn a s with
  | mk o next =>
    cases o with
    | ok x => exact runOn_bind_of_ok h
    | error e => exact runOn_bind_of_error h

end Runs

namespace Outcome

variable {α β : Type}

theorem bind_eq_ok_iff {x : Outcome α} {f : α → Outcome β} {b : β} :
    x >>= f = .ok b ↔ ∃ a, x = .ok a ∧ f a = .ok b := by
  constructor
  · exact Returns.of_bind (m := Outcome)
  · rintro ⟨a, rfl, h⟩
    exact h

/-- A list of outcomes goes well when each of them does. -/
theorem mapM_eq_ok_iff {f : α → Outcome β} {as : List α} {bs : List β} :
    as.mapM f = .ok bs ↔ List.Forall₂ (fun a b => f a = .ok b) as bs := by
  induction as generalizing bs with
  | nil => simp [pure, Except.pure, eq_comm]
  | cons a as ih =>
    rw [List.mapM_cons, bind_eq_ok_iff, List.forall₂_cons_left_iff]
    constructor
    · rintro ⟨b, hb, h⟩
      obtain ⟨rest, hrest, h⟩ := bind_eq_ok_iff.mp h
      cases h
      exact ⟨b, rest, hb, ih.mp hrest, rfl⟩
    · rintro ⟨b, rest, hb, hrest, rfl⟩
      exact ⟨b, hb, bind_eq_ok_iff.mpr ⟨rest, ih.mpr hrest, rfl⟩⟩

theorem eq_map_of_mapM {f : α → Outcome β} {g : α → β} (hf : ∀ a b, f a = .ok b → g a = b)
    {as : List α} {bs : List β} (h : as.mapM f = .ok bs) : bs = as.map g := by
  have hall : List.Forall₂ (· = ·) (as.map g) bs :=
    List.forall₂_map_left_iff.mpr ((mapM_eq_ok_iff.mp h).imp hf)
  rw [List.forall₂_eq_eq_eq] at hall
  exact hall.symm

theorem lift_self (x : Outcome α) : (x.lift : Outcome α) = x := by
  cases x with
  | _ => rfl

end Outcome
end LearningReports
