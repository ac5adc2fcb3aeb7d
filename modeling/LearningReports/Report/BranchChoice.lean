import LearningReports.Definition.Basic
import LearningReports.Session

/-! # Live and archived branches

Archived enrollments exist only where the platform archives them. A report on active and archived
enrollments leaves the live branch out when its date options can hold only in the archive. -/
namespace LearningReports

/-- The branches that a query has, and whether they are united. -/
structure BranchChoice where
  live : Bool
  union : Bool
  archive : Bool
  deriving Repr, DecidableEq

namespace BranchChoice

def liveOnly : BranchChoice := ⟨true, false, false⟩

/-- A missing option counts as one that is switched off. -/
def isAny : Option DateOption → Bool
  | none => true
  | some o => o.isAny

def scopeOf (d : Definition) : EnrollmentScope := (d.enrollment.map (·.scope)).getD .active

/-- The date options of a report on all enrollments can hold only in the archive. -/
def onlyArchiveFits (d : Definition) : Bool :=
  let others := !isAny d.completionDate || !isAny d.enrollmentDate
  !isAny d.archivingDate && (!others || d.conditions == .all)

def ofDefinition (d : Definition) (s : Session) : BranchChoice :=
  let archives := s.platform.hasArchive
  let scope := scopeOf d
  let onlyArchive := scope == .activeAndArchived && onlyArchiveFits d
  { live := (scope != .archived && !onlyArchive) || !archives
    union := scope == .activeAndArchived && archives && !onlyArchive
    archive := scope != .active && archives }

theorem ofDefinition_of_not_hasArchive {d : Definition} {s : Session}
    (h : s.platform.hasArchive = false) : ofDefinition d s = liveOnly := by
  simp [ofDefinition, h, liveOnly]

end BranchChoice
end LearningReports
