import LearningReports.Definition.Basic
import LearningReports.Json.Loose

/-! # Dates of legacy reports

A legacy date filter is a number of days ago with a comparison, or a range. Other filters leave the
option as it was. A count is read with the limit on the digits of written integers; the count that
is made of it may have one digit more and stays a number. -/
namespace LearningReports.Legacy

/-- The comparison of a number of days ago, turned into one of dates: fewer days ago is later. -/
def comparison? (sign : Json) (days : Int) : Option (String × Int) :=
  match sign with
  | .str "<" => some ("isAfter", days)
  | .str "<=" => some ("isAfter", days + 1)
  | .str ">" => some ("isBefore", days)
  | .str ">=" => some ("isBefore", max (days - 1) 0)
  | .str "=" => some ("isEqual", days)
  | _ => none

def daysAgo (option : DateOption) (legacy : Json) : Outcome DateOption := do
  let data := (← legacy.memberOrNull "data").orDefault Json.noMembers
  let days ← ((← data.memberOrNull "days_count").orDefault (.int 0)).toInteger
  match comparison? (← data.memberOrNull "combobox") days with
  | some (operator, days) => return { option with
      isAny := false, type := "relative", operator := operator, days := days }
  | none => return option

/-- The option with a range. The bounds stay as they are. -/
def range (option : DateOption) (legacy : Json) : Outcome DateOption := do
  let data := (← legacy.memberOrNull "data").orDefault Json.noMembers
  return { option with
    isAny := false, type := "range", days := 0, operator := "range"
    first := ← data.memberOr "from" (.str ""), last := ← data.memberOr "to" (.str "") }

/-- A count of days that holds a slash is a date in the wrong place. -/
def isDate (room : Nat) (count : Json) : Outcome Bool :=
  return (← count.textWithin room).toList.contains '/'

def date (option : DateOption) (legacy : Json) (room : Nat := Json.usualNesting) :
    Outcome DateOption := do
  if !legacy.isPresent then return option
  match ← legacy.memberOrNull "type" with
  | .str "ndago" =>
    let data := (← legacy.memberOrNull "data").orDefault Json.noMembers
    if ← isDate room (← data.memberOr "days_count" (.str "")) then return option
    else daysAgo option legacy
  | .str "range" => range option legacy
  | _ => return option

end LearningReports.Legacy
