import LearningReports.Proofs.FieldTexts
import LearningReports.Proofs.ShortIntegers

/-! # Exact keys

A custom field is read back from its key. A text that names a field may be written in another way:
with zeros in front, in the digits of another script, with a line break behind it. It names the
field that is read back from the key of what it names. -/
namespace LearningReports

/-! ## Written digits -/

theorem Text.digitValue?_of_isDigit {c : Char} (h : c.isDigit = true) :
    digitValue? c = some (Number.valueOf c) := by
  have hbounds : 48 ≤ c.toNat ∧ c.toNat ≤ 57 := by
    simpa [Char.isDigit, UInt32.le_iff_toNat_le] using h
  have hfirst : digitZeros.find? (fun base => base ≤ c.toNat && c.toNat < base + 10) = some 48 := by
    refine List.find?_cons_of_pos ?_
    simp only [Bool.and_eq_true, decide_eq_true_eq]
    omega
  rw [digitValue?, hfirst]
  rfl

namespace CustomField

variable {text : String} {c : CustomField} {e : Entity} {n : Nat}

theorem digitOf_lt (c : Char) : digitOf c < 10 := by
  unfold digitOf
  cases h : Text.digitValue? c with
  | none => exact Nat.succ_pos _
  | some d => exact Text.digitValue?_lt h

theorem ofDigits_map_digitOf (n : Nat) :
    Text.ofDigits ((Nat.toDigits 10 n).map digitOf) = n := by
  have hsame : (Nat.toDigits 10 n).map digitOf = (Nat.toDigits 10 n).map Number.valueOf :=
    List.map_congr_left fun c hc => by
      rw [digitOf, Text.digitValue?_of_isDigit (Number.isDigit_of_mem_toDigits hc)]
      rfl
  rw [hsame, Number.ofDigits_toDigits]

theorem writes_keyOf (e : Entity) (n : Nat) : Writes (keyOf e n) e (Nat.toDigits 10 n) where
  spelled := by
    refine ⟨[], .inl rfl, ?_⟩
    rw [keyOf, String.toList_append, List.append_nil]
    exact congrArg _ Nat.toList_repr
  nonempty := Nat.toDigits_ne_nil
  decimal c hc := by
    rw [Text.isDecimalDigit, Text.digitValue?_of_isDigit (Number.isDigit_of_mem_toDigits hc)]
    rfl

/-! ## Reading keys -/

theorem parse_keyOf (h : (Nat.toDigits 10 n).length ≤ Number.digitLimit) :
    parse (keyOf e n) = .ok (some ⟨e, n⟩) := by
  rw [(writes_keyOf e n).parse_eq, if_neg (Nat.not_lt.mpr h), ofDigits_map_digitOf]

theorem parse_eq_some_iff : parse text = .ok (some c) ↔
    ∃ digits, Writes text c.entity digits ∧ digits.length ≤ Number.digitLimit ∧
      c.number = Text.ofDigits (digits.map digitOf) := by
  constructor
  · intro h
    cases hparts : parts? text with
    | none =>
      rw [parse_eq_none hparts] at h
      cases h
    | some p =>
      obtain ⟨digits, hwrites, -⟩ := parts?_eq_some_iff.mp hparts
      rw [hwrites.parse_eq] at h
      split at h
      · cases h
      · next hlimit =>
        cases h
        exact ⟨digits, hwrites, Nat.le_of_not_lt hlimit, rfl⟩
  · rintro ⟨digits, hwrites, hlimit, hnumber⟩
    rw [hwrites.parse_eq, if_neg (Nat.not_lt.mpr hlimit), ← hnumber]

/-- A number that is read can be written with as many digits as may be read. -/
theorem length_toDigits_of_parse (h : parse text = .ok (some c)) :
    (Nat.toDigits 10 c.number).length ≤ Number.digitLimit := by
  obtain ⟨digits, -, hlimit, hnumber⟩ := parse_eq_some_iff.mp h
  have hdigits : ∀ d ∈ digits.map digitOf, d < 10 := fun d hd => by
    obtain ⟨c, -, rfl⟩ := List.mem_map.mp hd
    exact digitOf_lt c
  have hlt : c.number < 10 ^ Number.digitLimit :=
    calc c.number
      _ = Text.ofDigits (digits.map digitOf) := hnumber
      _ < 10 ^ (digits.map digitOf).length := Text.ofDigits_lt hdigits
      _ = 10 ^ digits.length := by rw [List.length_map]
      _ ≤ 10 ^ Number.digitLimit := Nat.pow_le_pow_right (by decide) hlimit
  exact (Nat.length_toDigits_le_iff (by decide) (by decide)).mpr hlt

theorem parse_key_of_parse (h : parse text = .ok (some c)) : parse c.key = .ok (some c) :=
  parse_keyOf (length_toDigits_of_parse h)

/-- Keys are an exact code of custom fields. A field whose number has no more digits than may be
read is read from its key, which is its only one; different fields have different keys; and no
standard field is read as a custom one. Every text can be read unless it has too many digits, and
names a field exactly when it has decimal digits of the field's number, not too many, behind the
start of the entity's keys and before one line break or none. The key of what a text names is read
as what the text names. -/
theorem keys_are_exact :
    (∀ (e : Entity) (n : Nat), (Nat.toDigits 10 n).length ≤ Number.digitLimit →
      parse (keyOf e n) = .ok (some ⟨e, n⟩) ∧ key ⟨e, n⟩ = keyOf e n) ∧
    (∀ (e e' : Entity) (z z' : Int), keyOf e z = keyOf e' z' ↔ e = e' ∧ z = z') ∧
    (∀ f : Field, parse f.id = .ok none) ∧
    ∀ text : String, ((∃ found, parse text = .ok found) ↔ ¬IsOversized text) ∧
      ∀ c : CustomField,
        (parse text = .ok (some c) ↔ ∃ digits, Writes text c.entity digits ∧
          digits.length ≤ Number.digitLimit ∧ c.number = Text.ofDigits (digits.map digitOf)) ∧
        (parse text = .ok (some c) → parse c.key = .ok (some c)) := by
  refine ⟨fun e n h => ⟨parse_keyOf h, rfl⟩, fun e e' z z' => ⟨fun h => ?_, ?_⟩, parse_id,
    fun text => ⟨parse_returns_iff, fun c => ⟨parse_eq_some_iff, parse_key_of_parse⟩⟩⟩
  · obtain rfl := entity_eq_of_keyOf_eq h
    exact ⟨rfl, number_eq_of_keyOf_eq h⟩
  · rintro ⟨rfl, rfl⟩
    rfl

/-- A field of the enrollments, named with a zero in front, a digit of another script and a line
break. The field of the courses with the same number has another key. -/
theorem keys_are_exact_respelled :
    (Nat.toDigits 10 3).length ≤ Number.digitLimit ∧
      parse (keyOf .enrollment 3) = .ok (some ⟨.enrollment, 3⟩) ∧
      Writes "courseuser_extrafield_0٣\n" .enrollment ['0', '٣'] ∧
      parse "courseuser_extrafield_0٣\n" = .ok (some ⟨.enrollment, 3⟩) ∧
      keyOf .course 3 ≠ keyOf .enrollment 3 := by
  obtain ⟨hkeys, hapart, -, htexts⟩ := keys_are_exact
  have hwrites : Writes "courseuser_extrafield_0٣\n" .enrollment ['0', '٣'] :=
    ⟨⟨['\n'], .inr rfl, by simp [keyStart, Entity.name, infixText]⟩, by decide,
      List.all_eq_true.mp (by decide)⟩
  have hshort : (Nat.toDigits 10 3).length ≤ Number.digitLimit := by decide
  have hread : parse "courseuser_extrafield_0٣\n" = .ok (some ⟨.enrollment, 3⟩) :=
    ((htexts _).2 ⟨.enrollment, 3⟩).1.mpr ⟨_, hwrites, by decide, by decide⟩
  refine ⟨hshort, (hkeys .enrollment 3 hshort).1, hwrites, hread, fun h => ?_⟩
  cases ((hapart .course .enrollment 3 3).mp h).1

end CustomField
end LearningReports
