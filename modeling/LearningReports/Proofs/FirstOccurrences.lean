import Mathlib.Data.List.Induction
import Mathlib.Data.List.Nodup

/-! # First occurrences

A list without repetitions keeps the first of several equal elements. One more element at the end
is kept unless it repeats one that is kept already. -/
namespace LearningReports

theorem eraseDupsBy_append_singleton {α : Type} (same : α → α → Bool) (as : List α) (a : α) :
    (as ++ [a]).eraseDupsBy same =
      if (as.eraseDupsBy same).any (same a) then as.eraseDupsBy same
      else as.eraseDupsBy same ++ [a] := by
  -- the loop carries what is kept so far, last element first
  have hloop (as kept : List α) : List.eraseDupsBy.loop same (as ++ [a]) kept =
      if (List.eraseDupsBy.loop same as kept).any (same a) then
        List.eraseDupsBy.loop same as kept
      else List.eraseDupsBy.loop same as kept ++ [a] := by
    induction as generalizing kept with
    | nil => cases h : kept.any (same a) <;> simp [List.eraseDupsBy.loop, h]
    | cons b as ih => cases h : kept.any (same b) <;> simp [List.eraseDupsBy.loop, h, ih]
  exact hloop as []

section Lawful

variable {α β : Type} [BEq α] [LawfulBEq α] [BEq β] [LawfulBEq β]

theorem eraseDups_append_singleton (as : List α) (a : α) :
    (as ++ [a]).eraseDups = if a ∈ as then as.eraseDups else as.eraseDups ++ [a] := by
  have hkept : (as.eraseDups.any (a == ·)) = true ↔ a ∈ as := by
    rw [List.any_beq, List.contains_iff_mem, List.mem_eraseDups]
  have hstep := eraseDupsBy_append_singleton (· == ·) as a
  change _ = if as.eraseDups.any (a == ·) = true then as.eraseDups else as.eraseDups ++ [a] at hstep
  simp only [hkept] at hstep
  exact hstep

theorem nodup_eraseDups (as : List α) : as.eraseDups.Nodup := by
  induction as using List.reverseRecOn with
  | nil => exact List.nodup_nil
  | append_singleton as a ih =>
    rw [eraseDups_append_singleton]
    split
    · exact ih
    · next h =>
      rw [← List.concat_eq_append]
      exact List.Nodup.concat (List.mem_eraseDups.not.mpr h) ih

/-- Elements that are added one by one, if they are not there yet, keep the first of each. -/
theorem foldl_eraseDups {add : List α → α → List α}
    (hadd : ∀ done a, add done a = if a ∈ done then done else done ++ [a]) (as bs : List α) :
    bs.foldl add as.eraseDups = (as ++ bs).eraseDups := by
  induction bs generalizing as with
  | nil => rw [List.foldl_nil, List.append_nil]
  | cons b bs ih =>
    have hstep : add as.eraseDups b = (as ++ [b]).eraseDups := by
      rw [hadd, eraseDups_append_singleton]
      simp only [List.mem_eraseDups]
    rw [List.foldl_cons, hstep, ih, List.append_assoc, List.singleton_append]

end Lawful
end LearningReports
