import LearningReports.Report.Context

/-! # Columns of enrollments

An enrollment has a status code; the filter of a report picks codes by flags. An e-learning
enrollment that is marked as waiting counts as waiting whatever its code. -/
namespace LearningReports

open Sql (Expr)

inductive EnrollmentStatus where
  | waitingList
  | toConfirm
  | subscribed
  | inProgress
  | completed
  | suspended
  | overbooking
  deriving Repr, DecidableEq

def EnrollmentStatus.code : EnrollmentStatus → Int
  | .waitingList => -2
  | .toConfirm => -1
  | .subscribed => 0
  | .inProgress => 1
  | .completed => 2
  | .suspended => 3
  | .overbooking => 4

/-- The code of a status in an expression. -/
def EnrollmentStatus.expr (s : EnrollmentStatus) : Expr := .int s.code

def joinByEnrollment (t : Table) (user course : String) : Sql.Fragment :=
  t.leftJoin (.and (.eq (t.col user) (Table.enrollment.col "idUser"))
    (.eq (t.col course) (Table.enrollment.col "idCourse")))

namespace EnrollmentColumns

def enrollmentCol (ctx : Context) (column : String) : Expr := ctx.col .enrollment column

/-- What makes a row count as waiting whatever its status: its mark and the type of its course. -/
structure WaitingMark where
  waiting : Expr
  courseType : Expr
  deriving Repr, DecidableEq

/-- The row is marked as waiting and its course is an e-learning course. -/
def WaitingMark.condition (w : WaitingMark) : Expr :=
  .paren (.and (.eq w.waiting (.int 1)) (.eq w.courseType (.str "elearning")))

/-- The row counts as waiting. -/
def isWaiting (status : Expr) (mark : Option WaitingMark) : Expr :=
  let waiting := Expr.eq status EnrollmentStatus.waitingList.expr
  match mark with
  | some mark => .or waiting mark.condition
  | none => waiting

/-- The status in words; an unknown code shows itself. -/
def statusName (ctx : Context) (status : Expr) (mark : Option WaitingMark) : Expr :=
  let is (s : EnrollmentStatus) := Expr.eq status s.expr
  .caseOf [
    (is .toConfirm, ctx.wording .courseuserStatusEnrollmentsToConfirm),
    (isWaiting status mark, ctx.wording .courseuserStatusWaitingList),
    (is .subscribed, ctx.wording .courseuserStatusSubscribed),
    (is .inProgress, ctx.wording .courseuserStatusInProgress),
    (is .completed, ctx.wording .courseuserStatusCompleted),
    (is .suspended, ctx.wording .courseuserStatusSuspended),
    (is .overbooking, ctx.wording .courseuserStatusOverbooking)]
    (.asText status)

/-- The statuses other than waiting that the flags of a filter pick. -/
def pickedStatuses (f : EnrollmentFilter) : List EnrollmentStatus :=
  when f.toConfirm [.toConfirm] ++ when (f.notStarted || f.subscribed) [.subscribed]
    ++ when f.inProgress [.inProgress] ++ when f.completed [.completed]
    ++ when f.suspended [.suspended] ++ when f.overbooking [.overbooking]

/-- The status is one of several. -/
def isAmong (status : Expr) : List EnrollmentStatus → Option Expr
  | [] => none
  | s :: rest => some (.oneOf status s.expr (rest.map (·.expr)))

/-- Rows that count as waiting are left out, where that can be told. -/
def leaveOutWaiting (mark : Option WaitingMark) (e : Expr) : Expr :=
  match mark with
  | some mark => .paren (.and e (.not mark.condition))
  | none => e

def statusAlternatives (f : EnrollmentFilter) (status : Expr) (mark : Option WaitingMark) :
    List Expr :=
  ((isAmong status (pickedStatuses f)).map fun e =>
    if f.waitingList then e else leaveOutWaiting mark e).toList
  ++ when f.waitingList [.paren (isWaiting status mark)]

/-- The condition that a status filter makes; all flags and no flags make none. -/
def statusFilter (filter : Option EnrollmentFilter) (status : Expr) (mark : Option WaitingMark) :
    List Expr :=
  match filter with
  | none => []
  | some f =>
    if f.flags.all id || !f.flags.any id then []
    else
      match statusAlternatives f status mark with
      | [] => []
      | e :: es => [.paren (.joined .or e es)]

/-- The level of the user in the course, in words. -/
def levelName (ctx : Context) (level : Expr) : Expr :=
  .caseOf [
    (.eq level (.int 6), ctx.wording .courseuserLevelTeacher),
    (.eq level (.int 4), ctx.wording .courseuserLevelTutor)]
    (ctx.wording .courseuserLevelStudent)

def liveMark (waiting courseType : Expr) : Option WaitingMark := some ⟨waiting, courseType⟩

def level : Builder := fun ctx =>
  { live := levelName ctx (enrollmentCol ctx "level")
    archived := levelName ctx (archivedCol "enrollment_level") }

def time (column archived : String) : Builder := fun ctx =>
  { live := ctx.time (enrollmentCol ctx column), archived := ctx.time (archivedCol archived) }

def status : Builder := fun ctx =>
  { live := statusName ctx (enrollmentCol ctx "status")
      (liveMark (enrollmentCol ctx "waiting") (ctx.col .course "course_type"))
    archived := statusName ctx (archivedCol "enrollment_status") none }

def shared (column archived : String) : Builder := fun ctx =>
  { live := enrollmentCol ctx column, archived := archivedCol archived }

def signatureHash : Builder := fun ctx =>
  { live := ctx.col .signature "signature"
    liveParts := [Table.signature.leftJoin (.and
      (.eq (Table.signature.col "course_id") (Table.enrollment.col "idCourse"))
      (.eq (Table.signature.col "user_id") (Table.enrollment.col "idUser")))] }

def assignmentType : Builder := fun ctx =>
  let assignment := enrollmentCol ctx "assignment_type"
  { live := .caseOf [
      (.eq assignment (.int 1), ctx.wording .assignmentTypeMandatory),
      (.eq assignment (.int 2), ctx.wording .assignmentTypeRequired),
      (.eq assignment (.int 3), ctx.wording .assignmentTypeRecommended),
      (.eq assignment (.int 4), ctx.wording .assignmentTypeOptional)]
      .null }

def archivingDate : Builder := fun ctx =>
  { live := .null, archived := ctx.time (archivedCol "created_at") }

def isArchived : Builder := fun ctx =>
  { live := ctx.wording .no, archived := ctx.wording .yes }

def column? : Field → Option Builder
  | .courseuserLevel => some level
  | .courseuserDateInscr => some (time "date_inscr" "enrollment_enrolled_at")
  | .courseuserDateFirstAccess => some (time "date_first_access" "enrollment_access_first")
  | .courseuserDateLastAccess => some (time "date_last_access" "enrollment_access_last")
  | .courseuserDateComplete => some (time "date_complete" "enrollment_completed_at")
  | .courseuserStatus => some status
  | .courseuserDateBeginValidity => some (time "date_begin_validity" "enrollment_validity_start")
  | .courseuserDateExpireValidity => some (time "date_expire_validity" "enrollment_validity_end")
  | .courseuserScoreGiven => some (shared "score_given" "enrollment_score")
  | .courseuserInitialScoreGiven => some (shared "initial_score_given" "enrollment_score_initial")
  | .courseESignatureHash => some signatureHash
  | .courseuserAssignmentType => some assignmentType
  | .enrollmentArchivingDate => some archivingDate
  | .enrollmentArchived => some isArchived
  | _ => none

end EnrollmentColumns
end LearningReports
