import LearningReports.Json.Loose
import LearningReports.Json.Reader

/-! # Nested texts

A reader with more room reads what one with less room reads, and finds the same faults, unless the
latter has gone too deep. No value nests deeper than the reader that it comes from had room for, and
room for every character of a text is enough. -/
namespace LearningReports.Json

/-! ## Nesting -/

section Nesting

variable {n : Nat}

theorem nesting_arr_le_iff {items : List Json} :
    (arr items).nesting ≤ n ↔ ∀ v ∈ items, v.nesting < n := by
  rw [nesting]
  induction items with
  | nil => simp [nestingOfItems]
  | cons v vs ih => rw [nestingOfItems, Nat.max_le, ih, List.forall_mem_cons, Nat.succ_le_iff]

theorem nesting_obj_le_iff {ms : List (String × Json)} :
    (obj ms).nesting ≤ n ↔ ∀ p ∈ ms, p.2.nesting < n := by
  rw [nesting]
  induction ms with
  | nil => simp [nestingOfMembers]
  | cons p ms ih => rw [nestingOfMembers, Nat.max_le, ih, List.forall_mem_cons, Nat.succ_le_iff]

theorem nesting_lt_of_member? {v w : Json} {key : String} (h : v.member? key = some w) :
    w.nesting < v.nesting := by
  cases v with
  | obj ms => exact nesting_obj_le_iff.mp (Nat.le_refl _) _ (mem_of_lookup? h)
  | _ => cases h

theorem nesting_le_of_elements {v w : Json} {ws : List Json} (h : v.elements = .ok ws)
    (hw : w ∈ ws) : w.nesting ≤ v.nesting := by
  cases v with
  | arr items =>
    cases h
    exact Nat.le_of_lt (nesting_arr_le_iff.mp (Nat.le_refl _) w hw)
  | str s =>
    cases h
    obtain ⟨c, -, rfl⟩ := List.mem_map.mp hw
    exact Nat.zero_le _
  | obj ms =>
    cases h
    obtain ⟨p, -, rfl⟩ := List.mem_map.mp hw
    exact Nat.zero_le _
  | _ => cases h

end Nesting

/-! ## More room -/

/-- What is read with room for so many brackets, and what is read with more room. -/
inductive Widens (room : Nat) : (less more : Except ReadFault (Json × List Char)) → Prop where
  | tooDeep {more : Except ReadFault (Json × List Char)} : Widens room (.error .tooDeep) more
  | fault {e : ReadFault} : Widens room (.error e) (.error e)
  | value {v : Json} {rest : List Char} (hv : v.nesting ≤ room) :
      Widens room (.ok (v, rest)) (.ok (v, rest))

namespace Widens

variable {room n : Nat} {less more : Except ReadFault (Json × List Char)}

theorem bind (h : Widens n less more)
    {f g : Json × List Char → Except ReadFault (Json × List Char)}
    (hfg : ∀ v rest, v.nesting ≤ n → Widens room (f (v, rest)) (g (v, rest))) :
    Widens room (less >>= f) (more >>= g) := by
  cases h with
  | tooDeep => exact .tooDeep
  | fault => exact .fault
  | value hv => exact hfg _ _ hv

end Widens

theorem nesting_of_word? {cs rest : List Char} {v : Json} (h : word? cs = some (v, rest)) :
    v.nesting = 0 := by
  obtain ⟨p, hp, h⟩ := List.exists_of_findSome?_eq_some h
  obtain ⟨_, -, h⟩ := Option.map_eq_some_iff.mp h
  cases h
  have hall : ∀ p ∈ words, p.2.nesting = 0 := by decide
  exact hall p hp

theorem readNumber_cases (negative : Bool) (cs : List Char) :
    (∃ e, readNumber negative cs = .error e ∧ e ≠ .tooDeep) ∨
      ∃ v rest, readNumber negative cs = .ok (v, rest) ∧ v.nesting = 0 := by
  unfold readNumber
  split
  next => exact .inl ⟨_, rfl, nofun⟩
  next d ds rest _ =>
    dsimp only
    generalize (if d = '0' then ([d], ds ++ rest) else (d :: ds, rest)) = parts
    split
    next =>
      split
      · exact .inl ⟨_, rfl, nofun⟩
      · exact .inr ⟨_, _, rfl, rfl⟩
    next => exact .inr ⟨_, _, rfl, rfl⟩

theorem widens_readNumber (negative : Bool) (cs : List Char) (room : Nat) :
    Widens room (readNumber negative cs) (readNumber negative cs) := by
  rcases readNumber_cases negative cs with ⟨e, he, -⟩ | ⟨v, rest, hv, hflat⟩
  · rw [he]
    exact .fault
  · rw [hv]
    exact .value (hflat ▸ Nat.zero_le room)

theorem widens_readValue_step {fuel room room' : Nat} (hroom : room ≤ room')
    (hitems : ∀ room room' acc cs, room ≤ room' → (∀ v ∈ acc, v.nesting ≤ room) →
      Widens (room + 1) (readItems fuel room acc cs) (readItems fuel room' acc cs))
    (hmembers : ∀ room room' acc cs, room ≤ room' → (∀ p ∈ acc, p.2.nesting ≤ room) →
      Widens (room + 1) (readMembers fuel room acc cs) (readMembers fuel room' acc cs))
    (cs : List Char) :
    Widens room (readValue (fuel + 1) room cs) (readValue (fuel + 1) room' cs) := by
  rw [readValue.eq_def, readValue.eq_def]
  dsimp only
  split
  next rest =>
    cases readText (rest.length + 1) [] rest with
    | error e => exact .fault
    | ok found => exact .value (Nat.zero_le room)
  next =>
    cases room with
    | zero => exact .tooDeep
    | succ room =>
      obtain ⟨room', rfl⟩ := Nat.exists_eq_add_of_lt hroom
      dsimp only
      split
      · exact .value (nesting_arr_le_iff.mpr nofun)
      · exact hitems _ _ _ _ (by omega) nofun
  next =>
    cases room with
    | zero => exact .tooDeep
    | succ room =>
      obtain ⟨room', rfl⟩ := Nat.exists_eq_add_of_lt hroom
      dsimp only
      split
      · exact .value (nesting_obj_le_iff.mpr nofun)
      · exact hmembers _ _ _ _ (by omega) nofun
  next =>
    split
    next hword => exact .value (nesting_of_word? hword ▸ Nat.zero_le room)
    next =>
      split
      · exact widens_readNumber _ _ room
      · exact widens_readNumber _ _ room

section Steps

variable {fuel room room' : Nat} (hvalue : ∀ cs, Widens room (readValue fuel room cs)
  (readValue fuel room' cs))
include hvalue

theorem widens_readItems_step
    (hitems : ∀ acc cs, (∀ v ∈ acc, v.nesting ≤ room) →
      Widens (room + 1) (readItems fuel room acc cs) (readItems fuel room' acc cs))
    {acc : List Json} (hacc : ∀ v ∈ acc, v.nesting ≤ room) (cs : List Char) :
    Widens (room + 1) (readItems (fuel + 1) room acc cs) (readItems (fuel + 1) room' acc cs) := by
  refine (hvalue (skipGaps cs)).bind fun v rest hv => ?_
  have hall : ∀ w ∈ v :: acc, w.nesting ≤ room := List.forall_mem_cons.mpr ⟨hv, hacc⟩
  dsimp only
  split
  · exact hitems _ _ hall
  · refine .value (nesting_arr_le_iff.mpr fun w hw => ?_)
    exact Nat.lt_succ_iff.mpr (hall w (List.mem_reverse.mp hw))
  · exact .fault

theorem widens_readMembers_step
    (hmembers : ∀ acc cs, (∀ p ∈ acc, p.2.nesting ≤ room) →
      Widens (room + 1) (readMembers fuel room acc cs) (readMembers fuel room' acc cs))
    {acc : List (String × Json)} (hacc : ∀ p ∈ acc, p.2.nesting ≤ room) (cs : List Char) :
    Widens (room + 1) (readMembers (fuel + 1) room acc cs)
      (readMembers (fuel + 1) room' acc cs) := by
  rw [readMembers, readMembers]
  split
  next rest _ =>
    cases readText (rest.length + 1) [] rest with
    | error e => exact .fault
    | ok found =>
      dsimp only [bind, Except.bind]
      split
      next =>
        refine (hvalue _).bind fun v rest hv => ?_
        have hall : ∀ p ∈ bindKey found.1 v acc, p.2.nesting ≤ room := by
          intro p hp
          rcases mem_bindKey hp with rfl | hp
          · exact hv
          · exact hacc p hp
        dsimp only
        split
        · exact hmembers _ _ hall
        · exact .value (nesting_obj_le_iff.mpr fun p hp => Nat.lt_succ_iff.mpr (hall p hp))
        · exact .fault
      next => exact .fault
  next => exact .fault

end Steps

/-- More room changes nothing but what went too deep. -/
theorem widens_readers (fuel : Nat) : ∀ room room', room ≤ room' →
    (∀ cs, Widens room (readValue fuel room cs) (readValue fuel room' cs)) ∧
    (∀ acc cs, (∀ v ∈ acc, v.nesting ≤ room) →
      Widens (room + 1) (readItems fuel room acc cs) (readItems fuel room' acc cs)) ∧
    ∀ acc cs, (∀ p ∈ acc, p.2.nesting ≤ room) →
      Widens (room + 1) (readMembers fuel room acc cs) (readMembers fuel room' acc cs) := by
  induction fuel with
  | zero => exact fun _ _ _ => ⟨fun _ => .fault, fun _ _ _ => .fault, fun _ _ _ => .fault⟩
  | succ fuel ih =>
    intro room room' hroom
    obtain ⟨hvalue, hitems, hmembers⟩ := ih room room' hroom
    refine ⟨widens_readValue_step hroom ?_ ?_, fun acc cs hacc => ?_, fun acc cs hacc => ?_⟩
    · exact fun n n' acc cs hn => (ih n n' hn).2.1 acc cs
    · exact fun n n' acc cs hn => (ih n n' hn).2.2 acc cs
    · exact widens_readItems_step hvalue hitems hacc cs
    · exact widens_readMembers_step hvalue hmembers hacc cs

/-! ## Enough room -/

theorem readText_ne_tooDeep (fuel : Nat) (acc cs : List Char) :
    readText fuel acc cs ≠ .error .tooDeep := by
  fun_induction readText fuel acc cs <;> first | assumption | nofun

theorem readNumber_ne_tooDeep (negative : Bool) (cs : List Char) :
    readNumber negative cs ≠ .error .tooDeep := by
  rcases readNumber_cases negative cs with ⟨e, he, hno⟩ | ⟨v, rest, hv, -⟩
  · rw [he]
    exact fun h => hno (Except.error.inj h)
  · rw [hv]
    nofun

theorem bind_ne_tooDeep {α β : Type} {x : Except ReadFault α} {f : α → Except ReadFault β}
    (hx : x ≠ .error .tooDeep) (hf : ∀ a, f a ≠ .error .tooDeep) :
    x >>= f ≠ .error .tooDeep := by
  cases x with
  | error e =>
    intro h
    cases h
    exact hx rfl
  | ok a => exact hf a

theorem readers_ne_tooDeep (fuel : Nat) : ∀ room, fuel ≤ room →
    (∀ cs, readValue fuel room cs ≠ .error .tooDeep) ∧
    (∀ acc cs, readItems fuel room acc cs ≠ .error .tooDeep) ∧
    ∀ acc cs, readMembers fuel room acc cs ≠ .error .tooDeep := by
  induction fuel with
  | zero => exact fun _ _ => ⟨nofun, nofun, nofun⟩
  | succ fuel ih =>
    intro room hroom
    obtain ⟨room, rfl⟩ : ∃ n, room = n + 1 := ⟨room - 1, by omega⟩
    obtain ⟨-, hitems, hmembers⟩ := ih room (by omega)
    obtain ⟨hvalue, hitems', hmembers'⟩ := ih (room + 1) (by omega)
    refine ⟨fun cs => ?_, fun acc cs => ?_, fun acc cs => ?_⟩
    · rw [readValue.eq_def]
      dsimp only
      split
      next => exact bind_ne_tooDeep (readText_ne_tooDeep _ _ _) nofun
      next =>
        split
        · nofun
        · exact hitems _ _
      next =>
        split
        · nofun
        · exact hmembers _ _
      next =>
        split
        · nofun
        · split
          · exact readNumber_ne_tooDeep _ _
          · exact readNumber_ne_tooDeep _ _
    · refine bind_ne_tooDeep (hvalue _) fun found => ?_
      dsimp only
      split
      · exact hitems' _ _
      · nofun
      · nofun
    · rw [readMembers]
      split
      next =>
        refine bind_ne_tooDeep (readText_ne_tooDeep _ _ _) fun found => ?_
        obtain ⟨key, rest⟩ := found
        dsimp only
        split
        next =>
          refine bind_ne_tooDeep (hvalue _) fun found => ?_
          obtain ⟨v, rest⟩ := found
          dsimp only
          split
          · exact hmembers' _ _
          · nofun
          · nofun
        next => nofun
      next => nofun

/-! ## Texts -/

section Texts

variable {s : String} {room room' : Nat} {v : Json}

theorem read_widens (s : String) (hroom : room ≤ room') : read s room = .error .tooDeep ∨
    read s room' = read s room ∧ ∀ v, read s room = .ok v → v.nesting ≤ room := by
  have hwidens := (widens_readers (s.toList.length + 1) room room' hroom).1 (skipGaps s.toList)
  rw [read, read]
  generalize readValue _ room _ = less at hwidens ⊢
  generalize readValue _ room' _ = more at hwidens ⊢
  cases hwidens with
  | tooDeep => exact .inl rfl
  | fault => exact .inr ⟨rfl, nofun⟩
  | value hv =>
    refine .inr ⟨rfl, fun w h => ?_⟩
    dsimp only [bind, Except.bind] at h
    split at h
    · cases h
      exact hv
    · cases h

/-- A value nests no deeper than its reader had room for. -/
theorem nesting_le_of_read (h : read s room = .ok v) : v.nesting ≤ room := by
  rcases read_widens s (Nat.le_refl room) with hdeep | ⟨-, hle⟩
  · rw [hdeep] at h
    cases h
  · exact hle v h

/-- More room is no matter where the room was enough. -/
theorem read_of_le (hroom : room ≤ room') (h : read s room ≠ .error .tooDeep) :
    read s room' = read s room :=
  ((read_widens s hroom).resolve_left h).1

/-- Room for every character of a text is enough. -/
theorem read_ne_tooDeep (h : s.toList.length < room) : read s room ≠ .error .tooDeep := by
  refine bind_ne_tooDeep ((readers_ne_tooDeep _ room h).1 _) fun found => ?_
  dsimp only
  split
  · nofun
  · nofun

end Texts

end LearningReports.Json
