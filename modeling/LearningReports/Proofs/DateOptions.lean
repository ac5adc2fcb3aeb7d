import LearningReports.Proofs.Valuations
import LearningReports.Report.DateFilter
import Mathlib.Algebra.Order.Ring.Unbundled.Rat
import Mathlib.Data.List.Forall2

/-! # What date options say of points in time

An option is effective when it is switched on and complete, and an effective option admits the
points in time between its bounds. Days are counted from some first one and points in time in
seconds from its start, fractions of a second included. What number a written day has is left to the
calendar. -/
namespace LearningReports

open Sql (Expr Moment Operator)

def Sql.Operator.bounding : List Operator := [.ge, .le, .lt]

/-- The calendar can give the point in time, and a query can write it between quotes. -/
def Sql.Moment.IsWritten : Moment → Prop
  | .now => False
  | .today | .daysFromToday _ => True
  | .at time => '\'' ∉ time.toList

/-- The present day, and the numbers of the days that are written. -/
structure Calendar where
  today : Int
  dayOf : List Char → Int

def dayStart (n : Int) : ℚ := n * 86400

def lastSecond (n : Int) : ℚ := dayStart n + 86399

/-! ## Written times -/

/-- Digits written alike, to compare a text with a pattern. -/
def digitShape (c : Char) : Char := if c.isDigit then '0' else c

/-- Four digits, two and two with hyphens between. -/
def dayShape : List Char := ['0', '0', '0', '0', '-', '0', '0', '-', '0', '0']

/-- Two digits three times with colons between. -/
def clockShape : List Char := ['0', '0', ':', '0', '0', ':', '0', '0']

def isIsoDay (cs : List Char) : Bool := cs.map digitShape == dayShape

def twoDigits (c d : Char) : Nat := 10 * (c.toNat - '0'.toNat) + (d.toNat - '0'.toNat)

/-- The seconds of a day until a time of day. -/
def secondsOf? (cs : List Char) : Option Nat :=
  match cs with
  | [a, b, _, c, d, _, e, f] =>
    if cs.map digitShape = clockShape then
      some (3600 * twoDigits a b + 60 * twoDigits c d + twoDigits e f)
    else none
  | _ => none

namespace Calendar

/-- The point in time that a text writes as a day, a blank and a time of day. -/
def timeOf? (c : Calendar) (cs : List Char) : Option ℚ :=
  if isIsoDay (cs.take 10) ∧ cs[10]? = some ' ' then
    (secondsOf? (cs.drop 11)).map fun s => dayStart (c.dayOf (cs.take 10)) + s
  else none

/-- The point in time that a query names. The very present is none that the calendar knows. -/
def timeOfMoment? (c : Calendar) : Moment → Option ℚ
  | .now => none
  | .today => some (dayStart c.today)
  | .daysFromToday n => some (dayStart (c.today + n))
  | .at time => c.timeOf? time.toList

theorem length_of_isIsoDay {cs : List Char} (h : isIsoDay cs = true) : cs.length = 10 := by
  have hlength := congrArg List.length (beq_iff_eq.mp h)
  rwa [List.length_map] at hlength

theorem timeOf?_append (c : Calendar) {day clock : List Char} {seconds : Nat}
    (hday : isIsoDay day = true) (hclock : secondsOf? clock = some seconds) :
    c.timeOf? (day ++ ' ' :: clock) = some (dayStart (c.dayOf day) + seconds) := by
  have hlength := length_of_isIsoDay hday
  have htake : (day ++ ' ' :: clock).take 10 = day := by
    rw [← hlength, List.take_left]
  have hdrop : (day ++ ' ' :: clock).drop 11 = clock := by
    rw [List.drop_append, List.drop_eq_nil_of_le (by omega), hlength]
    rfl
  have hblank : (day ++ ' ' :: clock)[10]? = some ' ' := by
    rw [List.getElem?_append_right (by omega), hlength]
    rfl
  rw [timeOf?, htake, hdrop, if_pos ⟨hday, hblank⟩, hclock]
  rfl

end Calendar

/-! ## Options -/

namespace DateOption

variable (o : DateOption)

/-- The characters of the day in a bound. -/
def boundDay (bound : Json) : List Char := bound.asText.toList.take 10

/-- The option restricts rows by its bounds. -/
def IsRange : Prop := o.type = "range" ∨ o.operator = "range"

instance : Decidable o.IsRange := inferInstanceAs (Decidable (_ ∨ _))

def dayOperators : List String := ["isAfter", "isBefore", "isEqual", "expiringIn"]

/-- The option is switched on and says between which points in time. -/
def Effective : Prop :=
  o.isAny = false ∧ (o.type = "relative" ∨ o.type = "range") ∧
    (o.IsRange ∧ (o.first.isPresent = true ∨ o.last.isPresent = true) ∨
      o.type = "relative" ∧ o.operator ∈ dayOperators)

instance : Decidable o.Effective := inferInstanceAs (Decidable (_ ∧ _))

/-- The bounds that the option gives begin with a day. -/
structure HasDays : Prop where
  first : o.first.isPresent = true → isIsoDay (boundDay o.first) = true
  last : o.last.isPresent = true → isIsoDay (boundDay o.last) = true

/-- The points in time that an effective option admits. -/
def Admits (c : Calendar) (t : ℚ) : Prop :=
  if o.IsRange then
    (o.first.isPresent = true → dayStart (c.dayOf (boundDay o.first)) ≤ t) ∧
      (o.last.isPresent = true → t ≤ lastSecond (c.dayOf (boundDay o.last)))
  else if o.operator = "isAfter" then dayStart (c.today - o.days) ≤ t
  else if o.operator = "isBefore" then t < dayStart (c.today - o.days)
  else if o.operator = "isEqual" then
    dayStart (c.today - o.days) ≤ t ∧ t < dayStart (c.today - o.days + 1)
  else dayStart c.today ≤ t ∧ t ≤ dayStart (c.today + o.days)

/-- An option holds of a column with a point in time that it admits, never of an empty one. -/
def Holds (c : Calendar) (t : Option ℚ) : Prop := ∃ x, t = some x ∧ o.Admits c x

def relative (operator : String) (days : Int) : DateOption :=
  { isAny := false, type := "relative", operator := operator, days := days }

theorem effective_relative {operator : String} (h : operator ∈ dayOperators) (n : Int) :
    (relative operator n).Effective :=
  ⟨rfl, .inl rfl, .inr ⟨rfl, h⟩⟩

theorem admits_relative_isAfter (c : Calendar) (n : Int) (t : ℚ) :
    (relative "isAfter" n).Admits c t ↔ dayStart (c.today - n) ≤ t := by
  simp [Admits, IsRange, relative]

theorem admits_relative_isBefore (c : Calendar) (n : Int) (t : ℚ) :
    (relative "isBefore" n).Admits c t ↔ ¬(relative "isAfter" n).Admits c t := by
  rw [admits_relative_isAfter, not_le]
  simp [Admits, IsRange, relative]

theorem admits_relative_isEqual (c : Calendar) (n : Int) (t : ℚ) :
    (relative "isEqual" n).Admits c t ↔
      (relative "isAfter" n).Admits c t ∧ ¬(relative "isAfter" (n - 1)).Admits c t := by
  have hday : c.today - (n - 1) = c.today - n + 1 := by omega
  rw [admits_relative_isAfter, admits_relative_isAfter, not_le, hday]
  simp [Admits, IsRange, relative]

theorem admits_relative_expiringIn (c : Calendar) (n : Int) (t : ℚ) :
    (relative "expiringIn" n).Admits c t ↔ dayStart c.today ≤ t ∧ t ≤ dayStart (c.today + n) := by
  simp [Admits, IsRange, relative]

/-! ## Options as comparisons -/

def boundComparisons : List (Operator × Moment) :=
  (if o.first.isPresent then [(.ge, .at (DateFilter.dayOf o.first ++ " 00:00:00"))] else [])
    ++ (if o.last.isPresent then [(.le, .at (DateFilter.dayOf o.last ++ " 23:59:59"))] else [])

def dayComparisons (operator : String) (days : Int) : List (Operator × Moment) :=
  if operator = "isAfter" then [(.ge, .daysFromToday (-days))]
  else if operator = "isBefore" then [(.lt, .daysFromToday (-days))]
  else if operator = "isEqual" then
    [(.ge, .daysFromToday (-days)), (.lt, .daysFromToday (-days + 1))]
  else if operator = "expiringIn" then [(.ge, .today), (.le, .daysFromToday days)]
  else []

/-- The comparisons that the option makes. -/
def comparisons : List (Operator × Moment) :=
  if !DateFilter.isActive (some o) then []
  else if o.IsRange then o.boundComparisons
  else dayComparisons o.operator o.days

/-- A comparison of a column. -/
def compareWith (column : Expr) (b : Operator × Moment) : Expr := .op b.1 column (.moment b.2)

variable {o}

theorem isActive_iff :
    DateFilter.isActive (some o) = true ↔
      o.isAny = false ∧ (o.type = "relative" ∨ o.type = "range") := by
  simp [DateFilter.isActive]

theorem Effective.isActive (h : o.Effective) : DateFilter.isActive (some o) = true :=
  isActive_iff.mpr ⟨h.1, h.2.1⟩

theorem Effective.bound (h : o.Effective) (hrange : o.IsRange) :
    o.first.isPresent = true ∨ o.last.isPresent = true := by
  obtain ⟨-, -, ⟨-, hbound⟩ | ⟨htype, hmem⟩⟩ := h
  · exact hbound
  · rcases hrange with hrange | hrange
    · simp [hrange] at htype
    · simp [hrange, dayOperators] at hmem

theorem Effective.operator_mem (h : o.Effective) (hrange : ¬o.IsRange) :
    o.operator ∈ dayOperators := by
  obtain ⟨-, -, ⟨hyes, -⟩ | ⟨-, hmem⟩⟩ := h
  · exact absurd hyes hrange
  · exact hmem

theorem comparisons_of_isRange (hactive : DateFilter.isActive (some o) = true)
    (hrange : o.IsRange) : o.comparisons = o.boundComparisons := by
  rw [comparisons, if_neg (by simp [hactive]), if_pos hrange]

theorem comparisons_of_not_isRange (hactive : DateFilter.isActive (some o) = true)
    (hrange : ¬o.IsRange) : o.comparisons = dayComparisons o.operator o.days := by
  rw [comparisons, if_neg (by simp [hactive]), if_neg hrange]

theorem boundComparisons_eq_nil_iff :
    o.boundComparisons = [] ↔ ¬(o.first.isPresent = true ∨ o.last.isPresent = true) := by
  rw [boundComparisons]
  cases o.first.isPresent <;> cases o.last.isPresent <;> simp

theorem dayComparisons_eq_nil_iff {operator : String} {days : Int} :
    dayComparisons operator days = [] ↔ operator ∉ dayOperators := by
  simp only [dayOperators, List.mem_cons, List.not_mem_nil, or_false, not_or]
  constructor
  · intro hnil
    refine ⟨?_, ?_, ?_, ?_⟩ <;> rintro rfl <;> simp [dayComparisons] at hnil
  · rintro ⟨hafter, hbefore, hequal, hexpiring⟩
    rw [dayComparisons, if_neg hafter, if_neg hbefore, if_neg hequal, if_neg hexpiring]

theorem comparisons_eq_nil_iff : o.comparisons = [] ↔ ¬o.Effective := by
  by_cases hactive : DateFilter.isActive (some o) = true
  · obtain ⟨hany, htype⟩ := isActive_iff.mp hactive
    by_cases hrange : o.IsRange
    · have hmeans : o.Effective ↔ o.first.isPresent = true ∨ o.last.isPresent = true :=
        ⟨fun h => h.bound hrange, fun h => ⟨hany, htype, .inl ⟨hrange, h⟩⟩⟩
      rw [comparisons_of_isRange hactive hrange, boundComparisons_eq_nil_iff, hmeans]
    · have hrelative : o.type = "relative" := htype.resolve_right fun h => hrange (.inl h)
      have hmeans : o.Effective ↔ o.operator ∈ dayOperators :=
        ⟨fun h => h.operator_mem hrange, fun h => ⟨hany, htype, .inr ⟨hrelative, h⟩⟩⟩
      rw [comparisons_of_not_isRange hactive hrange, dayComparisons_eq_nil_iff, hmeans]
  · have hnot : ¬o.Effective := fun h => hactive h.isActive
    rw [comparisons, if_pos (by simp [hactive])]
    exact iff_of_true rfl hnot

theorem forall_mem_boundComparisons {P : Operator × Moment → Prop} :
    (∀ b ∈ o.boundComparisons, P b) ↔
      (o.first.isPresent = true → P (.ge, .at (DateFilter.dayOf o.first ++ " 00:00:00"))) ∧
        (o.last.isPresent = true → P (.le, .at (DateFilter.dayOf o.last ++ " 23:59:59"))) := by
  rw [boundComparisons, List.forall_mem_append]
  simp [List.mem_ite_nil_right]

theorem forall_mem_dayComparisons {P : Operator × Moment → Prop} {operator : String} {days : Int}
    (htoday : ∀ a ∈ Operator.bounding, P (a, .today))
    (hdays : ∀ a ∈ Operator.bounding, ∀ n, P (a, .daysFromToday n)) :
    ∀ b ∈ dayComparisons operator days, P b := by
  simp only [Operator.bounding, List.forall_mem_cons] at htoday hdays
  simp only [dayComparisons]
  split_ifs <;> simp [htoday, hdays]

/-- What holds of the bounds of a range, of today and of all days counted from today holds of every
comparison that an option makes. -/
theorem forall_mem_comparisons {P : Operator × Moment → Prop}
    (hrange : DateFilter.isActive (some o) = true → o.IsRange → ∀ b ∈ o.boundComparisons, P b)
    (htoday : ∀ a ∈ Operator.bounding, P (a, .today))
    (hdays : ∀ a ∈ Operator.bounding, ∀ n, P (a, .daysFromToday n)) :
    ∀ b ∈ o.comparisons, P b := by
  by_cases hactive : DateFilter.isActive (some o) = true
  · by_cases h : o.IsRange
    · rw [comparisons_of_isRange hactive h]
      exact hrange hactive h
    · rw [comparisons_of_not_isRange hactive h]
      exact forall_mem_dayComparisons htoday hdays
  · rw [comparisons, if_pos (by simp [hactive])]
    exact List.forall_mem_nil _

/-! ## The points in time that are compared with -/

theorem toList_dayOf (bound : Json) : (DateFilter.dayOf bound).toList = boundDay bound :=
  String.toList_ofList

theorem timeOfMoment?_first (c : Calendar) (h : o.HasDays) (hfirst : o.first.isPresent = true) :
    c.timeOfMoment? (.at (DateFilter.dayOf o.first ++ " 00:00:00")) =
      some (dayStart (c.dayOf (boundDay o.first))) := by
  have hclock : secondsOf? "00:00:00".toList = some 0 := by decide
  have htime := c.timeOf?_append (h.first hfirst) hclock
  rw [Calendar.timeOfMoment?, String.toList_append, toList_dayOf]
  simpa using htime

theorem timeOfMoment?_last (c : Calendar) (h : o.HasDays) (hlast : o.last.isPresent = true) :
    c.timeOfMoment? (.at (DateFilter.dayOf o.last ++ " 23:59:59")) =
      some (lastSecond (c.dayOf (boundDay o.last))) := by
  have hclock : secondsOf? "23:59:59".toList = some 86399 := by decide
  have htime := c.timeOf?_append (h.last hlast) hclock
  rw [Calendar.timeOfMoment?, String.toList_append, toList_dayOf, lastSecond]
  simpa using htime

/-- The comparison is with a written point in time. -/
def IsBound (b : Operator × Moment) : Prop := b.1 ∈ Operator.bounding ∧ b.2.IsWritten

theorem quote_not_mem_of_isIsoDay {cs : List Char} (h : isIsoDay cs = true) : '\'' ∉ cs := by
  intro hmem
  have hshape : digitShape '\'' ∈ dayShape := beq_iff_eq.mp h ▸ List.mem_map_of_mem hmem
  revert hshape
  decide

theorem isBound_of_mem_comparisons (hdays : o.HasDays) : ∀ b ∈ o.comparisons, IsBound b := by
  have hat {bound : Json} {clock : String} (hday : isIsoDay (boundDay bound) = true)
      (hclock : '\'' ∉ clock.toList) :
      (Moment.at (DateFilter.dayOf bound ++ clock)).IsWritten := by
    rw [Moment.IsWritten, String.toList_append, toList_dayOf, List.mem_append, not_or]
    exact ⟨quote_not_mem_of_isIsoDay hday, hclock⟩
  have hge : Operator.ge ∈ Operator.bounding := by decide
  have hle : Operator.le ∈ Operator.bounding := by decide
  refine forall_mem_comparisons (fun _ _ => forall_mem_boundComparisons.mpr ⟨?_, ?_⟩)
    (fun _ ha => ⟨ha, trivial⟩) (fun _ ha _ => ⟨ha, trivial⟩)
  · exact fun hfirst => ⟨hge, hat (hdays.first hfirst) (by decide)⟩
  · exact fun hlast => ⟨hle, hat (hdays.last hlast) (by decide)⟩

/-- An effective option admits the points in time that pass all of its comparisons. -/
theorem admits_iff (c : Calendar) (h : o.Effective) (hdays : o.HasDays) (t : ℚ) :
    o.Admits c t ↔
      ∀ b ∈ o.comparisons, ∃ y, c.timeOfMoment? b.2 = some y ∧ b.1.compare t y = true := by
  by_cases hrange : o.IsRange
  · rw [Admits, if_pos hrange, comparisons_of_isRange h.isActive hrange, boundComparisons,
      List.forall_mem_append]
    refine and_congr ?_ ?_
    · by_cases hfirst : o.first.isPresent = true
      · simp [hfirst, timeOfMoment?_first c hdays hfirst, Operator.compare]
      · simp [hfirst]
    · by_cases hlast : o.last.isPresent = true
      · simp [hlast, timeOfMoment?_last c hdays hlast, Operator.compare]
      · simp [hlast]
  · have hmem := h.operator_mem hrange
    have hday (n : Int) : c.today + -n + 1 = c.today + (-n + 1) := add_assoc ..
    rw [Admits, if_neg hrange, comparisons_of_not_isRange h.isActive hrange]
    simp only [dayOperators, List.mem_cons, List.not_mem_nil, or_false] at hmem
    rcases hmem with ho | ho | ho | ho <;>
      simp [ho, dayComparisons, Calendar.timeOfMoment?, Operator.compare, Int.sub_eq_add_neg, hday]

theorem exists_timeOfMoment? (c : Calendar) (hdays : o.HasDays) :
    ∀ b ∈ o.comparisons, ∃ y, c.timeOfMoment? b.2 = some y := by
  refine forall_mem_comparisons (fun _ _ => forall_mem_boundComparisons.mpr ⟨?_, ?_⟩)
    (fun _ _ => ⟨_, rfl⟩) (fun _ _ _ => ⟨_, rfl⟩)
  · exact fun hfirst => ⟨_, timeOfMoment?_first c hdays hfirst⟩
  · exact fun hlast => ⟨_, timeOfMoment?_last c hdays hlast⟩

/-! ## Conditions -/

/-- The condition that an option makes joins its comparisons of the column. -/
theorem condition?_eq (column : Expr) :
    DateFilter.condition? column (some o) =
      match o.comparisons with
      | [] => none
      | b :: bs => some (.joined .and (compareWith column b) (bs.map (compareWith column))) := by
  have hrange : (decide (o.type = "range") || decide (o.operator = "range")) = true ↔ o.IsRange := by
    simp [IsRange]
  simp only [DateFilter.condition?, comparisons, hrange]
  split
  · rfl
  · split
    · rw [DateFilter.range?, boundComparisons]
      cases o.first.isPresent <;> cases o.last.isPresent <;> rfl
    · rw [DateFilter.relative?, dayComparisons]
      split
      · rfl
      · split
        · rfl
        · split
          · rfl
          · split <;> rfl

theorem condition?_isSome_iff (column : Expr) :
    (DateFilter.condition? column (some o)).isSome = true ↔ o.Effective := by
  have hnil := comparisons_eq_nil_iff (o := o)
  rw [condition?_eq]
  cases hbs : o.comparisons with
  | nil => simpa using hnil.mp hbs
  | cons b bs => simpa [hbs] using hnil

section Meanings

variable {c : Calendar} {column : Expr} {t : Option ℚ} {P : Expr → Prop}

/-- What conditions say of a row by `P` makes sense of the comparisons of a column: their
combination holds when all of them hold, and each compares what the column holds with the point in
time that it names. -/
structure Reads (c : Calendar) (column : Expr) (t : Option ℚ) (P : Expr → Prop) : Prop where
  all {b : Operator × Moment} {bs : List (Operator × Moment)} (hbs : ∀ a ∈ b :: bs, IsBound a) :
    P (.joined .and (compareWith column b) (bs.map (compareWith column))) ↔
      ∀ a ∈ b :: bs, P (compareWith column a)
  compare {b : Operator × Moment} {y : ℚ} (hb : IsBound b) (hy : c.timeOfMoment? b.2 = some y) :
    P (compareWith column b) ↔ ∃ x, t = some x ∧ b.1.compare x y = true

theorem Effective.condition_iff (h : o.Effective) (hdays : o.HasDays)
    (hP : Reads c column t P) {e : Expr} (he : DateFilter.condition? column (some o) = some e) :
    P e ↔ o.Holds c t := by
  have htime : ∀ b ∈ o.comparisons, ∃ y, c.timeOfMoment? b.2 = some y :=
    exists_timeOfMoment? c hdays
  have hbound := isBound_of_mem_comparisons hdays
  rw [condition?_eq] at he
  cases hbs : o.comparisons with
  | nil => exact absurd h (comparisons_eq_nil_iff.mp hbs)
  | cons b bs =>
    rw [hbs] at he
    cases he
    rw [hP.all (hbs ▸ hbound), ← hbs]
    constructor
    · intro hall
      have hb : b ∈ o.comparisons := hbs ▸ List.mem_cons_self
      obtain ⟨y, hy⟩ := htime b hb
      obtain ⟨x, hx, -⟩ := (hP.compare (hbound b hb) hy).mp (hall b hb)
      refine ⟨x, hx, (admits_iff c h hdays x).mpr fun a ha => ?_⟩
      obtain ⟨z, hz⟩ := htime a ha
      obtain ⟨x', hx', hcompare⟩ := (hP.compare (hbound a ha) hz).mp (hall a ha)
      cases hx.symm.trans hx'
      exact ⟨z, hz, hcompare⟩
    · rintro ⟨x, hx, hadmits⟩ a ha
      obtain ⟨y, hy, hcompare⟩ := (admits_iff c h hdays x).mp hadmits a ha
      exact (hP.compare (hbound a ha) hy).mpr ⟨x, hx, hcompare⟩

end Meanings

end DateOption

/-! ## Several options -/

/-- All of the members, or at least one of them where there are any. -/
def DateConditions.Among {α : Type} (how : DateConditions) (P : α → Prop) (as : List α) : Prop :=
  match how with
  | .all => ∀ a ∈ as, P a
  | .atLeastOne => as ≠ [] → ∃ a ∈ as, P a

namespace DateFilter

/-- The effective ones of several options, with their columns. -/
def effective (pairs : List Dated) : List (Expr × DateOption) :=
  pairs.filterMap fun (column, o) =>
    o.bind fun o => if o.Effective then some (column, o) else none

theorem among_congr {α β : Type} {how : DateConditions} {P : α → Prop} {Q : β → Prop}
    {as : List α} {bs : List β} (h : List.Forall₂ (fun a b => P a ↔ Q b) as bs) :
    how.Among P as ↔ how.Among Q bs := by
  have hall : (∀ a ∈ as, P a) ↔ ∀ b ∈ bs, Q b := by
    induction h with
    | nil => simp
    | cons hab _ ih => simp [hab, ih]
  have hany : (∃ a ∈ as, P a) ↔ ∃ b ∈ bs, Q b := by
    clear hall
    induction h with
    | nil => simp
    | cons hab _ ih => simp [hab, ih]
  have hnil : as ≠ [] ↔ bs ≠ [] := by
    rw [← List.length_pos_iff, ← List.length_pos_iff, h.length_eq]
  cases how with
  | all => exact hall
  | atLeastOne => exact imp_congr hnil hany

theorem among_singleton_iff {α : Type} (how : DateConditions) (P : α → Prop) (a : α) :
    how.Among P [a] ↔ P a := by
  cases how <;> simp [DateConditions.Among]

theorem conditions_cons (column : Expr) (o : Option DateOption) (pairs : List Dated) :
    conditions ((column, o) :: pairs) = (condition? column o).toList ++ conditions pairs := by
  simp only [conditions, List.filterMap_cons]
  cases condition? column o <;> rfl

theorem effective_cons (column : Expr) (o : DateOption) (pairs : List Dated) :
    effective ((column, some o) :: pairs) =
      (if o.Effective then [(column, o)] else []) ++ effective pairs := by
  simp only [effective, List.filterMap_cons, Option.bind_some]
  by_cases h : o.Effective
  · rw [if_pos h, if_pos h]
    rfl
  · rw [if_neg h, if_neg h]
    rfl

theorem forall₂_conditions (pairs : List Dated) :
    List.Forall₂ (fun e (p : Expr × DateOption) => condition? p.1 (some p.2) = some e)
      (conditions pairs) (effective pairs) := by
  induction pairs with
  | nil => exact .nil
  | cons pair pairs ih =>
    obtain ⟨column, o⟩ := pair
    cases o with
    | none => exact ih
    | some o =>
      have hsome := DateOption.condition?_isSome_iff column (o := o)
      rw [conditions_cons, effective_cons]
      cases he : condition? column (some o) with
      | none =>
        have hnot : ¬o.Effective := by simpa [he] using hsome
        rw [if_neg hnot]
        exact ih
      | some e =>
        have heffective : o.Effective := by simpa [he] using hsome
        rw [if_pos heffective]
        exact .cons he ih

theorem mem_effective {pairs : List Dated} {p : Expr × DateOption} :
    p ∈ effective pairs ↔ (p.1, some p.2) ∈ pairs ∧ p.2.Effective := by
  simp only [effective, List.mem_filterMap, Prod.exists]
  constructor
  · rintro ⟨column, o, hmem, hbind⟩
    cases o with
    | none => cases hbind
    | some o =>
      by_cases h : o.Effective
      · rw [Option.bind_some, if_pos h] at hbind
        cases hbind
        exact ⟨hmem, h⟩
      · rw [Option.bind_some, if_neg h] at hbind
        cases hbind
  · rintro ⟨hmem, h⟩
    exact ⟨p.1, some p.2, hmem, by simp [h]⟩

theorem mem_conditions {pairs : List Dated} {e : Expr} (h : e ∈ conditions pairs) :
    ∃ p ∈ effective pairs, condition? p.1 (some p.2) = some e := by
  obtain ⟨pair, hpair, he⟩ := List.mem_filterMap.mp h
  obtain ⟨column, o⟩ := pair
  cases o with
  | none => cases he
  | some o =>
    have hsome := DateOption.condition?_isSome_iff column (o := o)
    have heffective : o.Effective := hsome.mp (Option.isSome_iff_exists.mpr ⟨e, he⟩)
    exact ⟨(column, o), mem_effective.mpr ⟨hpair, heffective⟩, he⟩

theorem combined?_eq_none_iff_effective (how : DateConditions) (pairs : List Dated) :
    combined? how pairs = none ↔ effective pairs = [] := by
  have hlength := (forall₂_conditions pairs).length_eq
  rw [combined?_eq_none_iff, ← List.length_eq_zero_iff, ← List.length_eq_zero_iff, hlength]

/-- The conditions of several options hold as their effective options do. -/
theorem among_conditions_iff {how : DateConditions} {c : Calendar} {time : Expr → Option ℚ}
    {P : Expr → Prop} {pairs : List Dated} (hdays : ∀ p ∈ effective pairs, p.2.HasDays)
    (hP : ∀ p ∈ effective pairs, DateOption.Reads c p.1 (time p.1) P) :
    how.Among P (conditions pairs) ↔
      how.Among (fun p => p.2.Holds c (time p.1)) (effective pairs) := by
  have h := forall₂_conditions pairs
  refine among_congr ((List.forall₂_iff_get).mpr ⟨h.length_eq, fun i hi hj => ?_⟩)
  have he := (List.forall₂_iff_get.mp h).2 i hi hj
  have hmem := List.get_mem (effective pairs) ⟨i, hj⟩
  exact (mem_effective.mp hmem).2.condition_iff (hdays _ hmem) (hP _ hmem) he

end DateFilter
end LearningReports
