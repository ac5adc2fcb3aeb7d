import LearningReports.Text.Blank

/-! # Parts of texts

Where one text stands in another, and texts that trimming leaves alone. -/
namespace LearningReports.Text

/-- The bytes of a text. They take less to evaluate than its characters. -/
def bytes (s : String) : List UInt8 := s.toByteArray.data.toList

theorem bytes_injective : Function.Injective bytes := by
  intro s t h
  rw [← String.toByteArray_inj]
  exact ByteArray.ext (Array.toList_inj.mp h)

theorem bytes_append (s t : String) : bytes (s ++ t) = bytes s ++ bytes t := by
  simp [bytes]

/-- The first text stands somewhere in the second. -/
def Occurs (s t : String) : Prop := ∃ before after, t = before ++ s ++ after

namespace Occurs

variable {s t u : String}

theorem refl (s : String) : Occurs s s := ⟨"", "", by simp⟩

theorem empty (t : String) : Occurs "" t := ⟨"", t, by simp⟩

theorem append_left (t : String) (h : Occurs s u) : Occurs s (t ++ u) := by
  obtain ⟨before, after, rfl⟩ := h
  exact ⟨t ++ before, after, by simp only [String.append_assoc]⟩

theorem append_right (u : String) (h : Occurs s t) : Occurs s (t ++ u) := by
  obtain ⟨before, after, rfl⟩ := h
  exact ⟨before, after ++ u, by simp only [String.append_assoc]⟩

theorem trans (hs : Occurs s t) (ht : Occurs t u) : Occurs s u := by
  obtain ⟨before, after, rfl⟩ := ht
  exact append_right after (append_left before hs)

theorem intercalate {sep : String} {l : List String} (h : t ∈ l) (hs : Occurs s t) :
    Occurs s (sep.intercalate l) := by
  induction l with
  | nil => exact absurd h List.not_mem_nil
  | cons a as ih =>
    cases as with
    | nil =>
      cases List.mem_singleton.mp h
      simpa using hs
    | cons b bs =>
      rw [String.intercalate_cons_cons]
      rcases List.mem_cons.mp h with rfl | h
      · exact append_right _ (append_right _ hs)
      · exact append_left _ (ih h)

theorem separated {sep a : String} {l : List String} (h : t ∈ l) :
    Occurs (sep ++ t) (sep.intercalate (a :: l)) := by
  induction l generalizing a with
  | nil => exact absurd h List.not_mem_nil
  | cons b bs ih =>
    rw [String.intercalate_cons_cons]
    rcases List.mem_cons.mp h with rfl | h
    · cases bs with
      | nil => simpa [String.append_assoc] using append_left a (refl (sep ++ t))
      | cons c cs =>
        rw [String.intercalate_cons_cons, String.append_assoc]
        refine append_left a ?_
        simpa only [String.append_assoc] using append_right (sep ++ sep.intercalate (c :: cs))
          (refl (sep ++ t))
    · exact append_left _ (ih h)

theorem infix_bytes (h : Occurs s t) : bytes s <:+: bytes t := by
  obtain ⟨before, after, rfl⟩ := h
  exact ⟨bytes before, bytes after, by rw [bytes_append, bytes_append]⟩

end Occurs

/-! ## Trimming -/

/-- The text has no blank at its end. -/
def EndsSolid (s : String) : Prop := ∃ cs c, s.toList = cs ++ [c] ∧ isBlank c = false

theorem EndsSolid.append_left {s : String} (t : String) (h : EndsSolid s) : EndsSolid (t ++ s) := by
  obtain ⟨cs, c, hs, hc⟩ := h
  exact ⟨t.toList ++ cs, c, by rw [String.toList_append, hs, List.append_assoc], hc⟩

theorem strip_eq_self {p : Char → Bool} {c d : Char} {cs ds : List Char}
    (hc : p c = false) (hd : p d = false) (h : c :: cs = ds ++ [d]) :
    strip p (c :: cs) = c :: cs := by
  have hfront : (c :: cs).dropWhile p = c :: cs := List.dropWhile_cons_of_neg (by simp [hc])
  have hback : (c :: cs).reverse.dropWhile p = (c :: cs).reverse := by
    rw [h, List.reverse_append, List.reverse_singleton, List.singleton_append]
    exact List.dropWhile_cons_of_neg (by simp [hd])
  rw [strip, hfront, hback, List.reverse_reverse]

theorem trim_eq_self {c : Char} {cs : List Char} {s : String} (h : s.toList = c :: cs)
    (hc : isBlank c = false) (hs : EndsSolid s) : trim s = s := by
  obtain ⟨ds, d, hd, hblank⟩ := hs
  rw [trim, h, strip_eq_self hc hblank (h.symm.trans hd), ← h, String.ofList_toList]

/-! ## Numbers -/

theorem isBlank_of_isDigit {c : Char} (h : c.isDigit = true) : isBlank c = false := by
  have hbounds : 48 ≤ c.toNat ∧ c.toNat ≤ 57 := by
    simpa [Char.isDigit, UInt32.le_iff_toNat_le] using h
  simp only [isBlank, isSpacing, spacingCodes, List.contains_cons, List.contains_nil,
    Bool.or_false, Bool.or_eq_false_iff, beq_eq_false_iff_ne, Bool.and_eq_false_iff,
    decide_eq_false_iff_not]
  omega

theorem endsSolid_repr (n : Nat) : EndsSolid n.repr := by
  have hne : Nat.toDigits 10 n ≠ [] := Nat.toDigits_ne_nil
  refine ⟨(Nat.toDigits 10 n).dropLast, (Nat.toDigits 10 n).getLast hne, ?_, ?_⟩
  · rw [Nat.toList_repr, List.dropLast_concat_getLast hne]
  · exact isBlank_of_isDigit
      (Nat.isDigit_of_mem_toDigits (by decide) (by decide) (List.getLast_mem hne))

theorem endsSolid_number (n : Int) : EndsSolid (toString n) := by
  cases n with
  | ofNat n => exact endsSolid_repr n
  | negSucc n => exact .append_left "-" (endsSolid_repr (n + 1))

end LearningReports.Text
