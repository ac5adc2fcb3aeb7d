import LearningReports.Selection.Branches

/-! # Filters of a report

Each entity filter of a definition becomes an id filter. What a power user sees is restricted to
what was assigned to them, and a report on the caller's team to the caller's subordinates. -/
namespace LearningReports.Selection

/-- An entity filter: no filter and `all` restrict nothing. -/
def ofItems (all : Bool) (items : List SelectedItem) : IdFilter :=
  if all then .unrestricted else .ofList (selectedIds items)

def pickedCourses (d : Definition) : IdFilter :=
  match d.courses with
  | none => .unrestricted
  | some f => ofItems f.all f.courses

def pickedEntities : Option EntityFilter → IdFilter
  | none => .unrestricted
  | some f => ofItems f.all f.items

/-- The instructors of a classroom report; an empty list restricts nothing. -/
def instructors (d : Definition) : IdFilter :=
  match d.courses with
  | none => .unrestricted
  | some f => if f.instructors.isEmpty then .unrestricted else .ofList (selectedIds f.instructors)

/-- The channels of an asset report; an empty list restricts nothing. -/
def channels (d : Definition) : IdFilter :=
  match d.assets with
  | none => .unrestricted
  | some f => ofItems (f.all || f.channels.isEmpty) f.channels

/-- The groups of a survey report; an empty list restricts nothing. -/
def groups (d : Definition) : IdFilter :=
  match d.users with
  | none => .unrestricted
  | some f => ofItems (f.all || f.groups.isEmpty) f.groups

/-- The assets of an asset report; channels alone restrict through the channels. -/
def assets (d : Definition) : IdFilter :=
  match d.assets with
  | none => .unrestricted
  | some f => ofItems (f.all || (f.assets.isEmpty && !f.channels.isEmpty)) f.assets

/-- The caller sees only what was assigned to them. -/
def isRestricted (s : Session) (checkVisibility : Bool) : Bool := checkVisibility && s.isPowerUser

variable {m : Type → Type} [Monad m]

/-- A filter intersected with what was assigned to the caller. -/
def restrict (f : IdFilter) (restricted : Bool) (assigned : m (List Int)) : m IdFilter := do
  if restricted then return f.intersect (.ofList (← assigned)) else return f

def groupMembers (dir : Directory m) (groups : List SelectedItem) : m (List Int) := do
  if groups.isEmpty then return []
  else return (← dir.groups (sortedIds (selectedIds groups))).flatMap (·.members)

/-- The users that the definition picks: directly, through groups and through branches. -/
def pickedUsers (dir : Directory m) (d : Definition) : m IdFilter :=
  match d.users with
  | none => pure .unrestricted
  | some f =>
    if f.all then pure .unrestricted
    else do
      let throughGroups ← groupMembers dir f.groups
      let throughBranches ← if f.branches.isEmpty then pure [] else branchMembers dir f.branches
      return .ofList (selectedIds f.users ++ throughGroups ++ throughBranches)

/-- A filter intersected with the caller's subordinates in a report on the caller's team. -/
def onTeam (dir : Directory m) (d : Definition) (s : Session) (f : IdFilter) : m IdFilter := do
  match (d.users.map (·.managerTypes)).getD [] with
  | [] => return f
  | types => return f.intersect (.ofList (← dir.subordinates s.idUser types))

def users (dir : Directory m) (d : Definition) (s : Session) (checkVisibility : Bool) :
    m IdFilter := do
  let picked ← pickedUsers dir d
  let team ← onTeam dir d s picked
  restrict team (isRestricted s checkVisibility) dir.assignedUsers

def courses (dir : Directory m) (d : Definition) (s : Session) (checkVisibility : Bool) :
    m IdFilter :=
  restrict (pickedCourses d) (isRestricted s checkVisibility) dir.assignedCourses

def plans (dir : Directory m) (d : Definition) (s : Session) (checkVisibility : Bool) :
    m IdFilter :=
  restrict (pickedEntities d.learningPlans) (isRestricted s checkVisibility) dir.assignedPlans

/-- The type of custom fields whose values are options. -/
def dropdownType : String := "dropdown"

/-- The options that custom fields of the users have to have, by increasing field. Only fields with
options count, and only when the users filter asks for them. -/
def userConditions (dir : Directory m) (d : Definition) : m (List (Int × Int)) := do
  if ((d.users.map (·.byCustomFields)).getD false) && !d.userFieldOptions.isEmpty then
    let fields ← dir.customFields .user
    let known := (fields.filter (·.type == dropdownType)).map (·.id)
    return (d.userFieldOptions.mergeSort fun a b => decide (a.1 ≤ b.1)).filter fun c =>
      known.contains c.1
  else return []

end LearningReports.Selection
