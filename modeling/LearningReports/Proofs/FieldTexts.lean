import LearningReports.Proofs.FieldKeys

/-! # Texts of custom fields

A text names a custom field when it consists of the start of an entity's keys and of decimal digits,
of any script, with one line break or none behind them. It cannot be read when an integer may not
have so many digits, and this is the only way in which a text fails to be read. -/
namespace LearningReports.CustomField

open Text (digitValue? isDecimalDigit)

/-- The text has the digits behind the start of the entity's keys. -/
structure Writes (text : String) (e : Entity) (digits : List Char) : Prop where
  spelled : ∃ tail, (tail = [] ∨ tail = ['\n']) ∧
    text.toList = (keyStart e).toList ++ (digits ++ tail)
  nonempty : digits ≠ []
  decimal : ∀ c ∈ digits, isDecimalDigit c = true

/-- The text has more digits than an integer may have. -/
def IsOversized (text : String) : Prop :=
  ∃ e digits, Writes text e digits ∧ Number.digitLimit < digits.length

/-! ## Numbers at the end of a text -/

def digitOf (c : Char) : Nat := (digitValue? c).getD 0

theorem mapM_digitValue?_eq_some_iff {digits : List Char} {ds : List Nat} :
    digits.mapM digitValue? = some ds ↔
      (∀ c ∈ digits, isDecimalDigit c = true) ∧ ds = digits.map digitOf := by
  induction digits generalizing ds with
  | nil => exact ⟨fun h => ⟨List.forall_mem_nil _, (Option.some.inj h).symm⟩, fun h => h.2 ▸ rfl⟩
  | cons c cs ih =>
    simp only [List.mapM_cons, Option.bind_eq_bind, Option.bind_eq_some_iff, ih,
      List.forall_mem_cons, List.map_cons]
    constructor
    · rintro ⟨d, hd, _, ⟨hdecimal, rfl⟩, h⟩
      cases h
      exact ⟨⟨by rw [isDecimalDigit, hd]; rfl, hdecimal⟩, by rw [digitOf, hd]; rfl⟩
    · rintro ⟨⟨hc, hdecimal⟩, rfl⟩
      obtain ⟨d, hd⟩ := Option.isSome_iff_exists.mp hc
      exact ⟨d, hd, _, ⟨hdecimal, rfl⟩, by rw [digitOf, hd]; rfl⟩

theorem isDecimalDigit_newline : isDecimalDigit '\n' = false := by decide

theorem numberDigits?_eq_some_iff {cs : List Char} {ds : List Nat} :
    numberDigits? cs = some ds ↔ ∃ digits tail, cs = digits ++ tail ∧
      (tail = [] ∨ tail = ['\n']) ∧ digits ≠ [] ∧
      (∀ c ∈ digits, isDecimalDigit c = true) ∧ ds = digits.map digitOf := by
  have hbody (digits : List Char) : (if digits.isEmpty then none else digits.mapM digitValue?) =
      some ds ↔ digits ≠ [] ∧ (∀ c ∈ digits, isDecimalDigit c = true) ∧
        ds = digits.map digitOf := by
    cases digits with
    | nil => simp
    | cons c cs =>
      exact mapM_digitValue?_eq_some_iff.trans (and_iff_right (List.cons_ne_nil c cs)).symm
  unfold numberDigits?
  constructor
  · intro h
    dsimp only at h
    split at h
    · next rest hrest =>
      refine ⟨rest.reverse, ['\n'], ?_, .inr rfl, (hbody _).mp h⟩
      rw [← List.reverse_reverse cs, hrest, List.reverse_cons]
    · exact ⟨cs, [], (List.append_nil cs).symm, .inl rfl, (hbody _).mp h⟩
  · rintro ⟨digits, tail, rfl, rfl | rfl, hdigits⟩
    · rw [List.append_nil]
      dsimp only
      split
      · next rest hrest =>
        have hmem : '\n' ∈ digits := List.mem_reverse.mp (hrest ▸ List.mem_cons_self)
        have hno := isDecimalDigit_newline ▸ hdigits.2.1 _ hmem
        cases hno
      · exact (hbody _).mpr hdigits
    · rw [List.reverse_append]
      simpa using (hbody digits).mpr hdigits

/-! ## Reading a text -/

theorem numberAfter?_eq_some_iff {text : String} {e : Entity} {ds : List Nat} :
    (afterStart? (keyStart e).toList text.toList).bind numberDigits? = some ds ↔
      ∃ digits, Writes text e digits ∧ ds = digits.map digitOf := by
  simp only [Option.bind_eq_some_iff, numberDigits?_eq_some_iff]
  constructor
  · rintro ⟨_, hrest, digits, tail, rfl, htail, hne, hdecimal, rfl⟩
    exact ⟨digits, ⟨⟨tail, htail, eq_append_of_afterStart? hrest⟩, hne, hdecimal⟩, rfl⟩
  · rintro ⟨digits, ⟨⟨tail, htail, hspelled⟩, hne, hdecimal⟩, rfl⟩
    refine ⟨digits ++ tail, ?_, digits, tail, rfl, htail, hne, hdecimal, rfl⟩
    rw [hspelled]
    exact afterStart?_append ..

theorem Writes.entity_eq {text : String} {e e' : Entity} {digits digits' : List Char}
    (h : Writes text e digits) (h' : Writes text e' digits') : e = e' := by
  obtain ⟨tail, -, hspelled⟩ := h.spelled
  obtain ⟨tail', -, hspelled'⟩ := h'.spelled
  exact entity_eq_of_append_eq (hspelled.symm.trans hspelled')

theorem parts?_eq_some_iff {text : String} {e : Entity} {ds : List Nat} :
    parts? text = some (e, ds) ↔ ∃ digits, Writes text e digits ∧ ds = digits.map digitOf := by
  have hfound {e : Entity} {ds : List Nat} (h : parts? text = some (e, ds)) :
      ∃ digits, Writes text e digits ∧ ds = digits.map digitOf := by
    obtain ⟨e', -, h⟩ := List.exists_of_findSome?_eq_some h
    obtain ⟨ds', hds', h⟩ := Option.map_eq_some_iff.mp h
    cases h
    exact numberAfter?_eq_some_iff.mp hds'
  refine ⟨hfound, fun ⟨digits, hwrites, hds⟩ => ?_⟩
  have hthis := numberAfter?_eq_some_iff.mpr ⟨digits, hwrites, hds⟩
  cases hparts : parts? text with
  | none =>
    have hnone := List.findSome?_eq_none_iff.mp hparts e e.mem_all
    rw [hthis] at hnone
    cases hnone
  | some p =>
    obtain ⟨e', ds'⟩ := p
    obtain ⟨digits', hwrites', hds'⟩ := hfound hparts
    obtain rfl := hwrites'.entity_eq hwrites
    have hsame := numberAfter?_eq_some_iff.mpr ⟨digits', hwrites', hds'⟩
    rw [Option.some.inj (hsame.symm.trans hthis)]

/-- A text that has the digits names the custom field of their value, unless they are too many. -/
theorem Writes.parse_eq {text : String} {e : Entity} {digits : List Char}
    (h : Writes text e digits) : parse text =
      if Number.digitLimit < digits.length then .error (.oversizedInteger digits.length)
      else .ok (some ⟨e, Text.ofDigits (digits.map digitOf)⟩) := by
  rw [parse, parts?_eq_some_iff.mpr ⟨digits, h, rfl⟩]
  simp only [List.length_map]

theorem parse_returns_iff {text : String} : (∃ c, parse text = .ok c) ↔ ¬IsOversized text := by
  constructor
  · rintro ⟨c, hc⟩ ⟨e, digits, hwrites, hlimit⟩
    rw [hwrites.parse_eq, if_pos hlimit] at hc
    cases hc
  · intro h
    cases hparts : parts? text with
    | none => exact ⟨none, parse_eq_none hparts⟩
    | some p =>
      obtain ⟨digits, hwrites, -⟩ := parts?_eq_some_iff.mp hparts
      have hlimit : ¬Number.digitLimit < digits.length := fun hlimit =>
        h ⟨p.1, digits, hwrites, hlimit⟩
      exact ⟨_, hwrites.parse_eq.trans (if_neg hlimit)⟩

end LearningReports.CustomField
