import LearningReports.Legacy.Dates
import LearningReports.Proofs.Valuations
import LearningReports.Report.DateFilter
import LearningReports.Warehouse.Table

/-! # Imported numbers of days

A legacy filter compares with a count how many days ago a date is. Its import turns this into a
comparison of dates, before a day or after it, and moves the day by one where the bound counts in or
out differently. The condition for dates after a day includes the day itself, so the two signs that
ask for fewer days each let in one too many. Dates from zero days ago on would need tomorrow as the
day, but the import stops at the present one. -/
namespace LearningReports.Legacy

open DateFilter (condition? daysFromToday relative?)
open Sql (Expr Valuation)

inductive Comparison where
  | less
  | lessEqual
  | greater
  | greaterEqual
  | equal
  deriving Repr, DecidableEq

namespace Comparison

def sign : Comparison → String
  | .less => "<"
  | .lessEqual => "<="
  | .greater => ">"
  | .greaterEqual => ">="
  | .equal => "="

def Holds (k n : Int) : Comparison → Prop
  | .less => k < n
  | .lessEqual => k ≤ n
  | .greater => n < k
  | .greaterEqual => n ≤ k
  | .equal => k = n

instance (k n : Int) : (c : Comparison) → Decidable (c.Holds k n)
  | .less => inferInstanceAs (Decidable (k < n))
  | .lessEqual => inferInstanceAs (Decidable (k ≤ n))
  | .greater => inferInstanceAs (Decidable (n < k))
  | .greaterEqual => inferInstanceAs (Decidable (n ≤ k))
  | .equal => inferInstanceAs (Decidable (k = n))

/-- The numbers of days that an imported comparison keeps. -/
def Keeps (k n : Int) : Comparison → Prop
  | .less => k ≤ n
  | .lessEqual => k ≤ n + 1
  | .greater => n < k
  | .greaterEqual => max (n - 1) 0 < k
  | .equal => k = n

/-- The one number of days at which an imported comparison differs from the one it comes from. -/
def Misreads (k n : Int) : Comparison → Prop
  | .less => k = n
  | .lessEqual => k = n + 1
  | .greaterEqual => n = 0 ∧ k = 0
  | .greater | .equal => False

theorem keeps_iff_holds_iff {c : Comparison} {k n : Int} (hn : 0 ≤ n) :
    (c.Keeps k n ↔ c.Holds k n) ↔ ¬c.Misreads k n := by
  cases c with
  | less | lessEqual | greaterEqual =>
    simp only [Keeps, Holds, Misreads]
    omega
  | greater | equal => simp [Keeps, Holds, Misreads]

end Comparison

def daysAgoData (c : Comparison) (n : Nat) : Json :=
  .obj [("combobox", .str c.sign), ("days_count", .int n)]

/-- The legacy filter for dates by the number of days ago. -/
def daysAgoFilter (c : Comparison) (n : Nat) : Json :=
  .obj [("type", .str "ndago"), ("data", daysAgoData c n)]

/-! ## The import -/

theorem isDate_count (room n : Nat) : isDate room (.int n) = .ok false := by
  have hdigits : ∀ c ∈ (Json.int n).asText.toList, c.isDigit = true := by
    intro c hc
    change c ∈ n.repr.toList at hc
    rw [Nat.toList_repr] at hc
    exact Nat.isDigit_of_mem_toDigits (by decide) (by decide) hc
  have hslash : (Json.int n).asText.toList.contains '/' = false := by
    refine Bool.eq_false_iff.mpr fun h => ?_
    exact absurd (hdigits '/' (List.contains_iff_mem.mp h)) (by decide)
  have htext : (Json.int n).textWithin room = .ok (Json.int n).asText :=
    Json.textWithin_eq_ok_iff.mpr ⟨Nat.zero_le room, rfl⟩
  rw [isDate, htext, ← hslash]
  rfl

theorem orDefault_count (n : Nat) : (Json.int n).orDefault (.int 0) = .int n := by
  cases n with
  | zero => rfl
  | succ n => rfl

/-- The filter is imported as the comparison of dates that its sign stands for. -/
theorem date_daysAgoFilter (o : DateOption) (c : Comparison) (n room : Nat) {operator : String}
    {days : Int} (hc : comparison? (.str c.sign) n = some (operator, days)) :
    date o (daysAgoFilter c n) room = .ok { o with
      isAny := false, type := "relative", operator := operator, days := days } := by
  have hdate : date o (daysAgoFilter c n) room =
      (isDate room (.int n)).bind fun isDate =>
        if isDate then .ok o else daysAgo o (daysAgoFilter c n) := rfl
  have hdata : (daysAgoFilter c n).memberOrNull "data" = .ok (daysAgoData c n) := rfl
  have hpresent : (daysAgoData c n).orDefault Json.noMembers = daysAgoData c n := rfl
  have hcount : (daysAgoData c n).memberOrNull "days_count" = .ok (.int n) := rfl
  have hsign : (daysAgoData c n).memberOrNull "combobox" = .ok (.str c.sign) := rfl
  rw [hdate, isDate_count, Except.bind, if_neg Bool.false_ne_true, daysAgo, hdata]
  simp only [bind, Except.bind, hpresent, hcount, orDefault_count, Json.toInteger_int, hsign, hc]
  rfl

/-! ## Days of a row -/

section Days

variable {v : Valuation} {column : Expr} {k : Int}

theorem keeps_ge_daysFromToday_iff (hday : v.value column = .day (v.today - k)) (m : Int) :
    v.Keeps (.ge column (daysFromToday m)) ↔ k + m ≤ 0 := by
  rw [Valuation.keeps_ge_day_iff hday rfl]
  omega

theorem keeps_lt_daysFromToday_iff (hday : v.value column = .day (v.today - k)) (m : Int) :
    v.Keeps (.lt column (daysFromToday m)) ↔ 0 < k + m := by
  rw [Valuation.keeps_lt_day_iff hday rfl]
  omega

/-- The condition that an imported comparison puts on a column keeps the days that the comparison
keeps. -/
theorem exists_relative?_keeps (c : Comparison) (n : Nat)
    (hday : v.value column = .day (v.today - k)) :
    ∃ operator days e, comparison? (.str c.sign) n = some (operator, days) ∧
      operator ≠ "range" ∧ relative? column operator days = some e ∧
      (v.Keeps e ↔ c.Keeps k n) := by
  cases c with
  | less | lessEqual =>
    refine ⟨_, _, _, rfl, by decide, rfl, ?_⟩
    rw [keeps_ge_daysFromToday_iff hday, Comparison.Keeps]
    omega
  | greater | greaterEqual =>
    refine ⟨_, _, _, rfl, by decide, rfl, ?_⟩
    rw [keeps_lt_daysFromToday_iff hday, Comparison.Keeps]
    omega
  | equal =>
    refine ⟨_, _, _, rfl, by decide, rfl, ?_⟩
    rw [Valuation.keeps_and_iff, keeps_ge_daysFromToday_iff hday, keeps_lt_daysFromToday_iff hday,
      Comparison.Keeps]
    omega

end Days

theorem condition?_relative (column : Expr) (o : DateOption) {operator : String}
    (hrange : operator ≠ "range") (days : Int) :
    condition? column (some { o with
        isAny := false, type := "relative", operator := operator, days := days }) =
      relative? column operator days := by
  simp [condition?, DateFilter.isActive, hrange]

/-- An imported filter keeps the dates that the legacy one is for, up to one number of days: where
the sign asks for fewer days one more is kept, and where it asks for zero days at least, the present
day is not. -/
theorem daysAgo_keeps_iff (o : DateOption) (c : Comparison) (n room : Nat) {v : Valuation}
    {column : Expr} {k : Int} (hday : v.value column = .day (v.today - k)) :
    ∃ o' e, date o (daysAgoFilter c n) room = .ok o' ∧ condition? column (some o') = some e ∧
      ((v.Keeps e ↔ c.Holds k n) ↔ ¬c.Misreads k n) := by
  obtain ⟨operator, days, e, hc, hrange, he, hkeeps⟩ := exists_relative?_keeps c n hday
  refine ⟨_, e, date_daysAgoFilter o c n room hc, ?_, ?_⟩
  · rw [condition?_relative column o hrange, he]
  · rw [hkeeps]
    exact Comparison.keeps_iff_holds_iff (Int.natCast_nonneg n)

def rowDaysAgo (k : Int) : Valuation where
  today := 0
  given _ := .day (0 - k)

theorem daysAgo_keeps_iff_moreThanFive :
    (rowDaysAgo 6).value (Table.enrollment.col "date_inscr") = .day ((rowDaysAgo 6).today - 6) ∧
      ∃ o e, date {} (daysAgoFilter .greater 5) = .ok o ∧
        condition? (Table.enrollment.col "date_inscr") (some o) = some e ∧
        (rowDaysAgo 6).Keeps e := by
  have hday : (rowDaysAgo 6).value (Table.enrollment.col "date_inscr") =
      .day ((rowDaysAgo 6).today - 6) := rfl
  obtain ⟨o, e, ho, he, hkeeps⟩ :=
    daysAgo_keeps_iff {} .greater 5 Json.usualNesting hday
  refine ⟨hday, o, e, ho, he, ?_⟩
  exact (hkeeps.mpr nofun).mpr (by decide)

/-- The filter for fewer than five days ago keeps the fifth. -/
theorem daysAgo_keeps_fifth :
    ∃ o e, date {} (daysAgoFilter .less 5) = .ok o ∧
      condition? (Table.enrollment.col "date_inscr") (some o) = some e ∧
      (rowDaysAgo 5).value (Table.enrollment.col "date_inscr") =
        .day ((rowDaysAgo 5).today - 5) ∧
      (rowDaysAgo 5).Keeps e ∧ ¬Comparison.less.Holds 5 5 :=
  ⟨_, _, rfl, rfl, rfl, by decide, by decide⟩

end LearningReports.Legacy
