import LearningReports.Definition.Basic

/-! # Names of enumerated values

The names and numbers under which enumerated values stand in a saved report. -/
namespace LearningReports

/-- The name of a value in a table of named values. -/
def nameIn {α : Type} [DecidableEq α] (family : List (String × α)) (a : α) : String :=
  match family.find? (·.2 == a) with
  | some (name, _) => name
  | none => ""

/-- The number of a value in a table of numbered values. -/
def numberIn {α : Type} [DecidableEq α] (family : List (Int × α)) (a : α) : Int :=
  match family.find? (·.2 == a) with
  | some (n, _) => n
  | none => 0

def Audience.numbered : List (Int × Audience) :=
  [(1, .administrators), (2, .powerUsers), (3, .selectedPowerUsers)]

def SortSelector.named : List (String × SortSelector) :=
  [("default", .default), ("custom", .custom)]

def SortDirection.named : List (String × SortDirection) :=
  [("asc", .ascending), ("desc", .descending)]

def TimeFrame.named : List (String × TimeFrame) :=
  [("days", .days), ("weeks", .weeks), ("months", .months)]

def CourseKind.numbered : List (Int × CourseKind) := [(0, .all), (1, .elearning), (2, .classroom)]

def EnrollmentScope.numbered : List (Int × EnrollmentScope) :=
  [(1, .active), (2, .archived), (3, .activeAndArchived)]

def DateConditions.named : List (String × DateConditions) :=
  [("allConditions", .all), ("atLeastOneCondition", .atLeastOne)]

end LearningReports
