import LearningReports.Number.Integer
import Mathlib.Algebra.Group.Nat.Defs
import Mathlib.Data.List.Induction
import Mathlib.Data.List.TakeWhile

/-! # Integers that are written and read again

The reader of integers gives only integers within the limit of digits, and reads each of these from
the text that it is written as. -/
namespace LearningReports

/-! ## Sequences of digits -/

namespace Text

theorem ofDigits_lt {ds : List Nat} (h : ∀ d ∈ ds, d < 10) : ofDigits ds < 10 ^ ds.length := by
  induction ds using List.reverseRecOn with
  | nil => exact Nat.one_pos
  | append_singleton ds d ih =>
    have hd : d < 10 := h d (List.mem_append_right _ (.head _))
    have hds := ih fun x hx => h x (List.mem_append_left _ hx)
    rw [ofDigits_append_singleton, List.length_append, List.length_singleton, Nat.pow_succ]
    omega

end Text

namespace Number

def valueOf (c : Char) : Nat := c.toNat - '0'.toNat

theorem valueOf_lt {c : Char} (h : c.isDigit = true) : valueOf c < 10 := by
  have hbounds : 48 ≤ c.val ∧ c.val ≤ 57 := by simpa [Char.isDigit] using h
  have hlast : c.toNat ≤ 57 := UInt32.le_iff_toNat_le.mp hbounds.2
  have hzero : '0'.toNat = 48 := rfl
  unfold valueOf
  omega

theorem ofDigits_toDigits (n : Nat) : Text.ofDigits ((Nat.toDigits 10 n).map valueOf) = n := by
  have hfold := Nat.ofDigitChars_ten_toDigits (n := n)
  rw [Text.ofDigits, List.foldl_map]
  exact hfold

theorem isDigit_of_mem_toDigits {n : Nat} {c : Char} (h : c ∈ Nat.toDigits 10 n) :
    c.isDigit = true :=
  Nat.isDigit_of_mem_toDigits (by decide) (by decide) h

def IsShort (n : Int) : Prop := n.natAbs < 10 ^ digitLimit

theorem isShort_withSign {negative : Bool} {n : Nat} :
    IsShort (withSign negative n) ↔ n < 10 ^ digitLimit := by
  cases negative <;> simp [IsShort, withSign]

/-! ## What is read is short -/

theorem isShort_of_readDigits {negative : Bool} {cs : List Char} {n : Int}
    (h : readDigits negative cs = .ok n) : IsShort n := by
  unfold readDigits at h
  dsimp only at h
  split at h
  · cases h
  · split at h
    · cases h
    · rename_i hlimit
      split at h
      · cases h
      · cases h
        refine isShort_withSign.mpr (Nat.lt_of_lt_of_le (Text.ofDigits_lt fun d hd => ?_) ?_)
        · obtain ⟨c, hc, rfl⟩ := List.mem_map.mp hd
          exact valueOf_lt (List.mem_takeWhile_imp hc)
        · rw [List.length_map]
          exact Nat.pow_le_pow_right (by decide) (Nat.le_of_not_lt hlimit)

theorem isShort_of_readStrict {cs : List Char} {n : Int} (h : readStrict cs = .ok n) :
    IsShort n := by
  have hzero : IsShort 0 := Nat.pow_pos (by decide)
  unfold readStrict at h
  dsimp only at h
  split at h
  · cases h
    exact hzero
  · cases h
  · exact isShort_of_readDigits h

theorem isShort_of_readPlainInteger {s : String} {n : Int} (h : readPlainInteger s = .ok n) :
    IsShort n := by
  unfold readPlainInteger at h
  split at h
  · split at h
    · exact isShort_of_readStrict h
    · cases h
  · exact isShort_of_readStrict h

/-! ## What is short is read -/

theorem readDigits_toDigits (negative : Bool) {n : Nat} (h : n < 10 ^ digitLimit) :
    readDigits negative (Nat.toDigits 10 n) = .ok (withSign negative n) := by
  have hall : (Nat.toDigits 10 n).takeWhile Char.isDigit = Nat.toDigits 10 n :=
    List.takeWhile_eq_self_iff.mpr fun c hc => isDigit_of_mem_toDigits hc
  have hlength : (Nat.toDigits 10 n).length ≤ digitLimit :=
    (Nat.length_toDigits_le_iff (by decide) (by decide)).mpr h
  have hvalue := ofDigits_toDigits n
  unfold valueOf at hvalue
  simp only [readDigits, hall, hvalue, List.isEmpty_iff, Nat.toDigits_ne_nil, if_false,
    Nat.not_lt.mpr hlength, Nat.lt_irrefl]

theorem head?_toDigits_ne_zero {n : Nat} (hn : n ≠ 0) : (Nat.toDigits 10 n).head? ≠ some '0' := by
  intro hhead
  obtain ⟨rest, hrest⟩ := List.head?_eq_some_iff.mp hhead
  have hlt : n < 10 ^ rest.length := by
    have hdigits : ∀ d ∈ rest.map valueOf, d < 10 := fun d hd => by
      obtain ⟨c, hc, rfl⟩ := List.mem_map.mp hd
      have hmem : c ∈ Nat.toDigits 10 n := hrest ▸ List.mem_cons_of_mem _ hc
      exact valueOf_lt (isDigit_of_mem_toDigits hmem)
    have hvalue : Text.ofDigits (rest.map valueOf) = n := by
      rw [← ofDigits_toDigits n, hrest]
      rfl
    have hbound := Text.ofDigits_lt hdigits
    rwa [hvalue, List.length_map] at hbound
  rcases Nat.eq_zero_or_pos rest.length with hempty | hpos
  · rw [hempty, Nat.pow_zero] at hlt
    omega
  · have hlength := (Nat.length_toDigits_le_iff (by decide) hpos).mpr hlt
    rw [hrest, List.length_cons] at hlength
    omega

theorem head?_toDigits_ne_minus (n : Nat) : (Nat.toDigits 10 n).head? ≠ some '-' := by
  intro hhead
  have hdigit := isDigit_of_mem_toDigits (List.mem_of_head? hhead)
  exact absurd hdigit (by decide)

theorem readStrict_eq_readDigits {cs : List Char} (hminus : cs.head? ≠ some '-')
    (hzero : cs.head? ≠ some '0') :
    readStrict cs = readDigits false cs ∧ readStrict ('-' :: cs) = readDigits true cs := by
  cases cs with
  | nil => exact ⟨rfl, rfl⟩
  | cons c cs =>
    have hc : c ≠ '-' := fun h => hminus (congrArg some h)
    have hc' : c ≠ '0' := fun h => hzero (congrArg some h)
    simp [readStrict, hc, hc']

theorem readStrict_toString {n : Int} (h : IsShort n) :
    readStrict (toString n).toList = .ok n := by
  cases n with
  | ofNat n =>
    change readStrict n.repr.toList = _
    rw [Nat.toList_repr]
    rcases Nat.eq_zero_or_pos n with rfl | hpos
    · rfl
    · rw [(readStrict_eq_readDigits (head?_toDigits_ne_minus n)
        (head?_toDigits_ne_zero hpos.ne')).1]
      exact readDigits_toDigits false h
  | negSucc n =>
    change readStrict ("-" ++ (n + 1).repr).toList = _
    rw [String.toList_append, Nat.toList_repr]
    exact (readStrict_eq_readDigits (head?_toDigits_ne_minus (n + 1))
      (head?_toDigits_ne_zero n.succ_ne_zero)).2.trans (readDigits_toDigits true h)

/-- A short integer is read from the text that it is written as. -/
theorem readPlainInteger_toString {n : Int} (h : IsShort n) :
    readPlainInteger (toString n) = .ok n := by
  rw [readPlainInteger, readStrict_toString h]

end Number
end LearningReports
