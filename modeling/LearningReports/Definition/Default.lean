import LearningReports.Definition.Decode
import LearningReports.Session

/-! # New definitions

A new report has the mandatory fields of its type, no restrictions and no planning. Its texts are
checked like those of any other definition. -/
namespace LearningReports

/-- What a new definition gets from outside: an id and the time. -/
structure Stamp where
  id : String
  time : String
  deriving Repr, DecidableEq

/-- What the caller says of a new report. An author who is null is the caller. -/
structure NewReport where
  title : Json
  description : Json := .str ""
  author : Json := .null
  deriving Repr

namespace Definition

/-- The filters of a new definition. Archived enrollments have a date of their own, where the
platform archives them. -/
def withDefaultFilters (d : Definition) (hasArchive : Bool) : Definition :=
  let active : UsersFilter := { hideDeactivated := true }
  let archivingDate : Option DateOption := if hasArchive then some {} else none
  match d.type with
  | .usersCourses => { d with
      users := some active, courses := some {}, learningPlans := some {}
      enrollmentDate := some {}, completionDate := some {}, courseExpirationDate := some {}
      enrollment := some {}, archivingDate := archivingDate }
  | .classroomSessions => { d with
      users := some active, courses := some {}, sessions := some {}
      enrollmentDate := some {}, completionDate := some {}, courseExpirationDate := some {}
      sessionDates := some {}, attendance := some {}
      enrollment := some {}, archivingDate := archivingDate }
  | .enrollmentTime => { d with
      users := some active, courses := some {}, courseExpirationDate := some {} }
  | .surveyAnswers => { d with
      users := some {}, courses := some {}, surveys := some {}
      enrollmentDate := some {}, completionDate := some {}, surveyCompletionDate := some {}
      courseExpirationDate := some {} }
  | .assetStatistics => { d with assets := some {}, publishedDate := some {} }
  | .planStatistics => { d with
      users := some {}, learningPlans := some {}
      enrollmentDate := some {}, completionDate := some {} }

/-- A new definition from checked parts. -/
def new (t : ReportType) (s : Session) (stamp : Stamp)
    (title description : String) (author : Int) (platform timezone : String) : Definition :=
  withDefaultFilters
    { idReport := stamp.id
      type := t
      title := title
      description := description
      creationDate := stamp.time
      lastEdit := stamp.time
      lastEditBy := { idUser := s.idUser }
      author := author
      platform := platform
      timezone := timezone
      visibility := { audience := some .administrators }
      fields := t.mandatoryIds
      sorting := { field := t.defaultSort.id } }
    s.platform.hasArchive

/-- A new definition of a type, or the issues of what it is made from. -/
def default (t : ReportType) (s : Session) (stamp : Stamp) (r : NewReport) : Checked Definition :=
  new t s stamp
    <$> (Decode.text r.title).at (.key "title")
    <*> (Decode.text r.description).at (.key "description")
    <*> (match r.author with
      | .null => .valid s.idUser
      | author => (Decode.int author).at (.key "author"))
    <*> (Decode.text s.platform.baseUrl).at (.key "platform")
    <*> (Decode.text s.timezone).at (.key "timezone")

end Definition

/-- A new definition is made from checked texts. -/
theorem new_of_default {t : ReportType} {s : Session} {stamp : Stamp} {report : NewReport}
    {d : Definition} (h : Definition.default t s stamp report = .valid d) :
    ∃ title description author platform timezone,
      d = Definition.new t s stamp title description author platform timezone := by
  obtain ⟨f₁, timezone, h₁, -, rfl⟩ := Checked.seq_eq_valid_iff.mp h
  obtain ⟨f₂, platform, h₂, -, rfl⟩ := Checked.seq_eq_valid_iff.mp h₁
  obtain ⟨f₃, author, h₃, -, rfl⟩ := Checked.seq_eq_valid_iff.mp h₂
  obtain ⟨f₄, description, h₄, -, rfl⟩ := Checked.seq_eq_valid_iff.mp h₃
  change Checked.map _ _ = _ at h₄
  cases htitle : (Decode.text report.title).at (.key "title") with
  | invalid issues =>
    rw [htitle] at h₄
    cases h₄
  | valid title =>
    rw [htitle] at h₄
    cases h₄
    exact ⟨title, description, author, platform, timezone, rfl⟩

end LearningReports
