import LearningReports.Definition.Named
import LearningReports.Json.Loose
import LearningReports.Sql.Expr

/-! # Date options as conditions

A relative option counts days back from today, and forward when it asks what is about to expire. A
range includes both ends, the last one up to the last second of its day. -/
namespace LearningReports

/-- How several date options combine, by name, or the failure that shows the value given. -/
def DateConditions.ofName (v : Json) : Outcome DateConditions :=
  match v.text?.bind (lookup? · named) with
  | some c => .ok c
  | none => .error (.notMember v.shown "DateConditions")

def DateConditions.operator : DateConditions → Sql.Operator
  | .all => .and
  | .atLeastOne => .or

namespace DateFilter

open Sql (Expr)

/-- The first ten characters: the day of a written time. -/
def dayOf (time : Json) : String := String.ofList (time.asText.toList.take 10)

/-- The option restricts rows. -/
def isActive : Option DateOption → Bool
  | none => false
  | some o => !o.isAny && (o.type == "relative" || o.type == "range")

/-- The days of a count, from today on. -/
def daysFromToday (n : Int) : Expr := .moment (.daysFromToday n)

/-- The condition that a range puts on a column. -/
def range? (column : Expr) (o : DateOption) : Option Expr :=
  let start := Expr.ge column (.moment (.at (dayOf o.first ++ " 00:00:00")))
  let finish := Expr.le column (.moment (.at (dayOf o.last ++ " 23:59:59")))
  match o.first.isPresent, o.last.isPresent with
  | true, true => some (.and start finish)
  | true, false => some start
  | false, true => some finish
  | false, false => none

/-- The condition that a number of days puts on a column. -/
def relative? (column : Expr) (operator : String) (days : Int) : Option Expr :=
  if operator = "isAfter" then some (.ge column (daysFromToday (-days)))
  else if operator = "isBefore" then some (.lt column (daysFromToday (-days)))
  else if operator = "isEqual" then
    some (.and (.ge column (daysFromToday (-days))) (.lt column (daysFromToday (-days + 1))))
  else if operator = "expiringIn" then
    some (.and (.ge column (.moment .today)) (.le column (daysFromToday days)))
  else none

/-- The condition that an option puts on a column; none for an option that is incomplete. -/
def condition? (column : Expr) (option : Option DateOption) : Option Expr :=
  match option with
  | none => none
  | some o =>
    if !isActive (some o) then none
    else if o.type = "range" || o.operator = "range" then range? column o
    else relative? column o.operator o.days

/-- A column with its date option. -/
abbrev Dated := Expr × Option DateOption

/-- The conditions of several options. -/
def conditions (pairs : List Dated) : List Expr :=
  pairs.filterMap fun (column, o) => condition? column o

/-- Several conditions made one: each in parentheses, and the whole. -/
def combine (how : DateConditions) : List Expr → Option Expr
  | [] => none
  | e :: es => some (.paren (.joined how.operator (.paren e) (es.map .paren)))

/-- The condition that several options make together. -/
def combined? (how : DateConditions) (pairs : List Dated) : Option Expr :=
  combine how (conditions pairs)

/-- The condition that several options make together, as a list of at most one. -/
def combined (how : DateConditions) (pairs : List Dated) : List Expr :=
  (combined? how pairs).toList

/-- The condition under a way of combining that is given by name. The name matters only when some
option makes a condition. -/
def combinedByName? (how : Json) (pairs : List Dated) : Outcome (Option Expr) :=
  match conditions pairs with
  | [] => .ok none
  | es => (DateConditions.ofName how).map fun how => combine how es

theorem condition?_of_inactive {column : Expr} {o : Option DateOption} (h : isActive o = false) :
    condition? column o = none := by
  cases o <;> simp_all [condition?]

theorem combined?_eq_none_iff (how : DateConditions) (pairs : List Dated) :
    combined? how pairs = none ↔ conditions pairs = [] := by
  unfold combined? combine
  split <;> simp_all

end DateFilter
end LearningReports
