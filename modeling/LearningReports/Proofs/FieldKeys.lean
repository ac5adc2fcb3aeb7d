import LearningReports.Catalog.CustomField
import LearningReports.Catalog.Field
import LearningReports.Proofs.Occurs

/-! # Keys of fields

No text names a standard field and a custom field at once, and the keys of different custom fields
differ. -/
namespace LearningReports.CustomField

theorem afterStart?_append (start rest : List Char) :
    afterStart? start (start ++ rest) = some rest := by
  induction start with
  | nil => rfl
  | cons c cs ih => simpa [afterStart?] using ih

theorem eq_append_of_afterStart? {start cs rest : List Char}
    (h : afterStart? start cs = some rest) : cs = start ++ rest := by
  induction start generalizing cs with
  | nil => exact Option.some.inj h
  | cons w ws ih =>
    cases cs with
    | nil => cases h
    | cons c cs =>
      rw [afterStart?] at h
      split at h
      · next hc => rw [ih h, hc, List.cons_append]
      · cases h

theorem afterStart?_keyOf (e : Entity) (number : Int) :
    afterStart? (keyStart e).toList (keyOf e number).toList = some (toString number).toList := by
  rw [keyOf, String.toList_append]
  exact afterStart?_append ..

/-! ## Entities -/

private theorem seven_le_length_keyStart (e : Entity) : 7 ≤ (keyStart e).toList.length := by
  cases e <;> decide

private theorem take_keyStart_injective {e e' : Entity}
    (h : (keyStart e).toList.take 7 = (keyStart e').toList.take 7) : e = e' := by
  cases e <;> cases e' <;> first | rfl | exact absurd h (by decide)

theorem entity_eq_of_append_eq {e e' : Entity} {rest rest' : List Char}
    (h : (keyStart e).toList ++ rest = (keyStart e').toList ++ rest') : e = e' := by
  have htake := congrArg (List.take 7) h
  rw [List.take_append_of_le_length (seven_le_length_keyStart e),
    List.take_append_of_le_length (seven_le_length_keyStart e')] at htake
  exact take_keyStart_injective htake

theorem entity_eq_of_keyOf_eq {e e' : Entity} {n n' : Int} (h : keyOf e n = keyOf e' n') :
    e = e' := by
  rw [keyOf, keyOf, ← String.toList_inj, String.toList_append, String.toList_append] at h
  exact entity_eq_of_append_eq h

/-! ## Numbers -/

private theorem toString_natCast_injective {n n' : Nat}
    (h : toString (n : Int) = toString (n' : Int)) : n = n' := by
  have hdigits : Nat.toDigits 10 n = Nat.toDigits 10 n' := String.ofList_injective h
  rw [← Nat.ofDigitChars_ten_toDigits (n := n), hdigits, Nat.ofDigitChars_ten_toDigits]

private theorem toString_natCast_ne {n n' : Nat} :
    toString (n : Int) ≠ toString (Int.negSucc n') := by
  intro h
  have hdigits : Nat.toDigits 10 n = '-' :: Nat.toDigits 10 (n' + 1) := by
    have hchars : (String.ofList (Nat.toDigits 10 n)).toList =
        ("-" ++ String.ofList (Nat.toDigits 10 (n' + 1))).toList := congrArg String.toList h
    simpa using hchars
  have hdigit : '-'.isDigit = true :=
    Nat.isDigit_of_mem_toDigits (by decide) (by decide) (hdigits ▸ List.mem_cons_self)
  cases hdigit

private theorem toString_injective {n n' : Int} (h : toString n = toString n') : n = n' := by
  cases n with
  | ofNat n =>
    cases n' with
    | ofNat n' => rw [toString_natCast_injective h]
    | negSucc n' => exact absurd h toString_natCast_ne
  | negSucc n =>
    cases n' with
    | ofNat n' => exact absurd h.symm toString_natCast_ne
    | negSucc n' =>
      have hrest : toString ((n + 1 : Nat) : Int) = toString ((n' + 1 : Nat) : Int) :=
        (String.append_right_inj "-").mp h
      cases toString_natCast_injective hrest
      rfl

theorem number_eq_of_keyOf_eq {e : Entity} {n n' : Int} (h : keyOf e n = keyOf e n') : n = n' :=
  toString_injective ((String.append_right_inj _).mp h)

theorem eq_of_parts {c c' : CustomField} (hentity : c.entity = c'.entity)
    (hnumber : c.number = c'.number) : c = c' := by
  cases c
  cases c'
  simp_all

/-- The key of a custom field tells the field. -/
theorem key_injective {c c' : CustomField} (h : c.key = c'.key) : c = c' := by
  have hentity : c.entity = c'.entity := entity_eq_of_keyOf_eq h
  rw [key, key, hentity] at h
  exact eq_of_parts hentity (Int.ofNat.inj (number_eq_of_keyOf_eq h))

/-! ## Standard fields -/

private theorem not_isPrefixOf_id : ∀ f ∈ Field.all, ∀ e ∈ Entity.all,
    (Text.bytes (keyStart e)).isPrefixOf (Text.bytes f.id) = false := by
  decide +kernel

private theorem afterStart?_id (f : Field) (e : Entity) :
    afterStart? (keyStart e).toList f.id.toList = none := by
  cases h : afterStart? (keyStart e).toList f.id.toList with
  | none => rfl
  | some rest =>
    have hid : f.id = keyStart e ++ String.ofList rest := by
      rw [← String.toList_inj, String.toList_append, String.toList_ofList]
      exact eq_append_of_afterStart? h
    have hno := not_isPrefixOf_id f (Field.mem_all f) e (Entity.mem_all e)
    rw [hid, Text.bytes_append, List.isPrefixOf_iff_prefix.mpr (List.prefix_append ..)] at hno
    cases hno

theorem keyOf_ne_id (e : Entity) (number : Int) (f : Field) : keyOf e number ≠ f.id := by
  intro h
  have hkey := afterStart?_keyOf e number
  rw [h, afterStart?_id f e] at hkey
  cases hkey

theorem parse_id (f : Field) : parse f.id = .ok none := by
  refine parse_eq_none (List.findSome?_eq_none_iff.mpr fun e he => ?_)
  rw [afterStart?_id f e]
  rfl

end LearningReports.CustomField
