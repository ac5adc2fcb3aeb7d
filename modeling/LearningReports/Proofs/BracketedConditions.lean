import LearningReports.Proofs.DateTexts
import LearningReports.Proofs.Valuations

/-! # Bracketed conditions

An engine reads AND before OR, and NOT in front of what stands next to it. A condition with its
brackets at the right places is read as the tree that it is written from: it holds as its parts do,
and the parts hold as their own texts say. -/
namespace LearningReports

open Sql (Dialect Expr Restriction Valuation)
open Text (Facts IsChain Spells)

namespace Sql.Expr

def isGroup : Expr → Bool
  | .paren _ => true
  | _ => false

/-- Outside of parentheses no OR stands, unless such are let in, and a NOT only in front of them. -/
def isBracketed : (loose : Bool) → Expr → Bool
  | loose, .op .or a b => loose && a.isBracketed true && b.isBracketed true
  | _, .op _ a b | _, .pair a b => a.isBracketed false && b.isBracketed false
  | _, .not e => e.isGroup && e.isBracketed false
  | _, .isNull e | _, .notNull e | _, .apply _ e => e.isBracketed false
  | _, .paren e => e.isBracketed true
  | _, .inSelect _ e item _ condition =>
    e.isBracketed false && item.isBracketed false && condition.isBracketed true
  | _, _ => true

/-- The parts of a condition that AND, OR and parentheses put together. -/
def atoms : Expr → List Expr
  | .op .and a b | .op .or a b => a.atoms ++ b.atoms
  | .paren e => e.atoms
  | e => [e]

theorem isBracketed_mono {e : Expr} (h : e.isBracketed false = true) :
    e.isBracketed true = true := by
  cases e with
  | op o a b =>
    cases o with
    | or => cases h
    | _ => exact h
  | _ => exact h

/-- Conditions that are put together by AND, OR and parentheses hold as their parts do. -/
structure Logical (holds : Expr → Prop) : Prop where
  and_iff {a b : Expr} : holds (.and a b) ↔ holds a ∧ holds b
  or_iff {a b : Expr} : holds (.or a b) ↔ holds a ∨ holds b
  paren_iff {e : Expr} : holds (.paren e) ↔ holds e

theorem logical_keeps (v : Valuation) : Logical v.Keeps where
  and_iff := Valuation.keeps_and_iff
  or_iff := Valuation.keeps_or_iff
  paren_iff := Valuation.keeps_paren_iff

/-- The parts of a condition can be read on their own, and hold as their texts say. -/
def SpeltBy (f : Facts) (d : Dialect) (holds : Expr → Prop) (e : Expr) : Prop :=
  ∀ a ∈ e.atoms, IsChain (d.render a) ∧ (f.reads d (d.render a) = true ↔ holds a)

section

variable {f : Facts} {d : Dialect} {holds : Expr → Prop} {e : Expr}

theorem spelt_joined_or {es : List Expr} (h : ∀ a ∈ e :: es, SpeltBy f d holds a) :
    SpeltBy f d holds (.joined .or e es) := by
  induction es generalizing e with
  | nil => exact h e (.head _)
  | cons a es ih =>
    obtain ⟨he, ha, hes⟩ := List.forall_mem_cons.mp h |>.imp_right List.forall_mem_cons.mp
    exact ih (List.forall_mem_cons.mpr ⟨List.forall_mem_append.mpr ⟨he, ha⟩, hes⟩)

theorem reads_of_spelt (hholds : Logical holds) {loose : Bool} (h : e.isBracketed loose = true)
    (hspelt : SpeltBy f d holds e) :
    (∃ t, Spells (d.render e) t ∧ (loose = false → Text.orToken ∉ t.tops)) ∧
      (f.reads d (d.render e) = true ↔ holds e) := by
  have hatom (a : Expr) (ha : SpeltBy f d holds a) (hself : a.atoms = [a]) (loose : Bool) :
      (∃ t, Spells (d.render a) t ∧ (loose = false → Text.orToken ∉ t.tops)) ∧
        (f.reads d (d.render a) = true ↔ holds a) := by
    obtain ⟨⟨t, ht, hor⟩, hreads⟩ := ha a (by rw [hself]; exact .head _)
    exact ⟨⟨t, ht, fun _ => hor⟩, hreads⟩
  induction e generalizing loose with
  | op o a b iha ihb =>
    cases o with
    | and =>
      obtain ⟨ha, hb⟩ := (Bool.and_eq_true _ _).mp h
      obtain ⟨hspelta, hspeltb⟩ := List.forall_mem_append.mp hspelt
      obtain ⟨⟨t, ht, hor⟩, hreadsa⟩ := iha ha hspelta
      obtain ⟨⟨t', ht', hor'⟩, hreadsb⟩ := ihb hb hspeltb
      refine ⟨⟨_, (ht.blank Facts.spells_and).blank ht', fun _ => ?_⟩, ?_⟩
      · have hword : Text.orToken ≠ Text.andToken := by decide
        simp [Text.Trees.tops, hor rfl, hor' rfl, hword]
      · have hreads : f.reads d (d.render (.op .and a b)) = _ :=
          Facts.reads_and ht ht' (hor rfl) (hor' rfl)
        rw [hreads, Bool.and_eq_true, hreadsa, hreadsb]
        exact hholds.and_iff.symm
    | or =>
      obtain ⟨hboth, hb⟩ := (Bool.and_eq_true _ _).mp h
      obtain ⟨hloose, ha⟩ := (Bool.and_eq_true _ _).mp hboth
      obtain ⟨hspelta, hspeltb⟩ := List.forall_mem_append.mp hspelt
      obtain ⟨⟨t, ht, -⟩, hreadsa⟩ := iha ha hspelta
      obtain ⟨⟨t', ht', -⟩, hreadsb⟩ := ihb hb hspeltb
      refine ⟨⟨_, (ht.blank Facts.spells_or).blank ht', fun hno => ?_⟩, ?_⟩
      · rw [hno] at hloose
        cases hloose
      · have hreads : f.reads d (d.render (.op .or a b)) = _ := Facts.reads_or ht ht'
        rw [hreads, Bool.or_eq_true, hreadsa, hreadsb]
        exact hholds.or_iff.symm
    | _ => exact hatom _ hspelt rfl loose
  | paren e ih =>
    obtain ⟨⟨t, ht, -⟩, hreads⟩ := ih (show e.isBracketed true = true from h) hspelt
    have hparen : f.reads d (d.render (.paren e)) = f.reads d (d.render e) := Facts.reads_paren ht
    refine ⟨⟨_, ht.paren, fun _ => List.not_mem_nil⟩, ?_⟩
    rw [hparen, hreads]
    exact hholds.paren_iff.symm
  | _ => exact hatom _ hspelt rfl loose

end

end Sql.Expr
end LearningReports
