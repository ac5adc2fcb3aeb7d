import LearningReports.Directory.Basic
import LearningReports.Json.Loose

/-! # Records kept in memory

A directory whose records are given. They are read when they are asked for, so a faulty record
matters only to those who ask for it. -/
namespace LearningReports

/-- What can be asked of a directory. -/
inductive Inquiry where
  | session
  | wordings
  | groups
  | branches
  | customFields (entity : Entity)
  | subordinates
  | assignedUsers
  | assignedCourses
  | assignedPlans
  deriving Repr, DecidableEq

/-- The records of a directory. Ids that serve as keys are written as texts. -/
structure Records where
  session : Session
  wordings : List (String × Json) := []
  groups : List (String × Json) := []
  branches : List (String × Json) := []
  customFields : List (String × Json) := []
  subordinates : List (String × Json) := []
  assignedUsers : List Json := []
  assignedCourses : List Json := []
  assignedPlans : List Json := []
  /-- Questions that fail, and how. -/
  failures : List (Inquiry × Failure) := []
  deriving Repr

namespace Records

/-- An answer, unless the question fails. -/
def answer {α : Type} (r : Records) (q : Inquiry) (a : Outcome α) : Outcome α :=
  match r.failures.find? (·.1 == q) with
  | some (_, failure) => .error failure
  | none => a

/-- The records of the known ones of some ids, in the order asked. -/
def details {α : Type} (records : List (String × Json)) (read : Int → Json → Outcome α)
    (ids : List Int) : Outcome (List α) :=
  (ids.filterMap fun id => (lookup? (toString id) records).map fun v => (id, v)).mapM
    fun (id, v) => read id v

def readDetails {α : Type} (d : Int → Members → Checked α) (id : Int) (v : Json) : Outcome α := do
  (d id (← v.members)).outcome

def fieldsOf (r : Records) (e : Entity) : Outcome (List FieldMetadata) :=
  (((lookup? e.name r.customFields).bind Json.items?).getD []).mapM
    fun v => (Decode.fieldMetadata v).outcome

/-- The subordinates for each of some types of managers, one type after the other. -/
def subordinatesFor (r : Records) (types : List Int) : Outcome (List Int) :=
  (types.flatMap fun t =>
    ((lookup? (toString t) r.subordinates).bind Json.items?).getD []).mapM Json.toInteger

def directory (r : Records) : Directory Outcome where
  session := r.answer .session (.ok r.session)
  wordings keys _ := r.answer .wordings
    (.ok (keys.filterMap fun key => (lookup? key r.wordings).map fun v => (key, v)))
  groups ids := r.answer .groups (details r.groups (readDetails Decode.groupDetails) ids)
  branches ids := r.answer .branches (details r.branches (readDetails Decode.branchDetails) ids)
  branchBound := .ok r.branches.length
  customFields e := r.answer (.customFields e) (r.fieldsOf e)
  subordinates _ types := r.answer .subordinates (r.subordinatesFor types)
  assignedUsers := r.answer .assignedUsers (r.assignedUsers.mapM Json.toInteger)
  assignedCourses := r.answer .assignedCourses (r.assignedCourses.mapM Json.toInteger)
  assignedPlans := r.answer .assignedPlans (r.assignedPlans.mapM Json.toInteger)

end Records
end LearningReports
