import LearningReports.Catalog.CustomField
import LearningReports.Directory.Details
import LearningReports.Session

/-! # The directory

The directory knows the users, groups, branches and custom fields of a platform. Whoever can answer
these questions can serve as one: a client that asks over the network or records kept in memory. -/
namespace LearningReports

/-- Answers in a monad in which requests may fail. -/
structure Directory (m : Type → Type) where
  session : m Session
  /-- The known ones of some keys with their wording in a language. -/
  wordings : List String → Json → m (List (String × Json))
  groups : List Int → m (List GroupDetails)
  branches : List Int → m (List BranchDetails)
  /-- No fewer than the requests for branches that can still be answered. -/
  branchBound : m Nat
  customFields : Entity → m (List FieldMetadata)
  /-- The users whom a user manages in one of some ways. -/
  subordinates : Int → List Int → m (List Int)
  assignedUsers : m (List Int)
  assignedCourses : m (List Int)
  assignedPlans : m (List Int)

/-- The value of a check, or the failure that reports its issues. -/
def Checked.outcome {α : Type} : Checked α → Outcome α
  | .valid a => .ok a
  | .invalid issues => .error (.invalid issues)

theorem Checked.outcome_eq_ok_iff {α : Type} {c : Checked α} {a : α} :
    c.outcome = .ok a ↔ c = .valid a := by
  cases c <;> simp [outcome]

/-- An outcome as an action. -/
def Outcome.lift {m : Type → Type} [Monad m] [MonadExceptOf Failure m] {α : Type} :
    Outcome α → m α
  | .ok a => pure a
  | .error e => throw e

end LearningReports
