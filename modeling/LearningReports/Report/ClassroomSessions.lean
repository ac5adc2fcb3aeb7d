import LearningReports.Report.Columns.Custom
import LearningReports.Report.Columns.User
import LearningReports.Report.Restrictions

/-! # Classroom sessions

One row for each user, course and session, live or archived. The archive keeps the session and the
enrollment in it beside the archived enrollment in the course. -/
namespace LearningReports.ClassroomSessions

open Restrictions
open Sql (Expr)

def sessionCol (column : String) : Expr := Table.sessionEnrollment.col column

def archived (record key : String) : Expr :=
  .apply (.field key) (Table.archivedSession.col record)

def archivedStatus : Expr := .cast (archived "enrollment_info" "status") "int"

/-! ## Filters -/

/-- The statuses other than waiting that the flags of a filter pick in a session. -/
def pickedStatuses (f : EnrollmentFilter) : List EnrollmentStatus :=
  when f.notStarted [.subscribed] ++ when f.inProgress [.inProgress]
    ++ when f.completed [.completed] ++ when f.suspended [.suspended]

def sessionFlags (f : EnrollmentFilter) : List Bool :=
  [f.notStarted, f.inProgress, f.completed, f.suspended, f.waitingList]

/-- The condition that a status filter makes on the enrollment in a session. Statuses other than
waiting count only in rows that are not marked as waiting. -/
def statusFilter (filter : Option EnrollmentFilter) (status : Expr) (waiting : Option Expr) :
    List Expr :=
  match filter with
  | none => []
  | some f =>
    if (sessionFlags f).all id || !(sessionFlags f).any id then []
    else
      let isWaiting := Expr.eq status EnrollmentStatus.waitingList.expr
      let picked := (EnrollmentColumns.isAmong status (pickedStatuses f)).map fun e =>
        match waiting with
        | some mark => .and e (.eq mark (.int 0))
        | none => e
      match picked, f.waitingList with
      | some e, true => [.paren (.or (.paren e) (.paren isWaiting))]
      | some e, false => [.paren e]
      | none, _ => [.paren isWaiting]

inductive Attendance where
  | blended
  | flexible
  | fullOnline
  | fullOnsite
  deriving Repr, DecidableEq

def Attendance.name : Attendance → String
  | .blended => "blended"
  | .flexible => "flexible"
  | .fullOnline => "online"
  | .fullOnsite => "onsite"

/-- The name of a way of attending in an expression. -/
def Attendance.expr (a : Attendance) : Expr := .str a.name

def pickedAttendances (f : AttendanceFilter) : List Attendance :=
  when f.blended [.blended] ++ when f.flexible [.flexible] ++ when f.fullOnline [.fullOnline]
    ++ when f.fullOnsite [.fullOnsite]

/-- The condition that an attendance filter makes; all ways and no way make none. -/
def attendanceFilter (filter : Option AttendanceFilter) (type : Expr) : List Expr :=
  match filter with
  | none => []
  | some f =>
    if f.blended && f.flexible && f.fullOnline && f.fullOnsite then []
    else
      match pickedAttendances f with
      | [] => []
      | a :: rest => [.oneOf type a.expr (rest.map (·.expr))]

/-- The condition on the dates of a session. Rows without an anchor keep it in any case. -/
def datesFilter (dates : Option SessionDates) (start finish : Expr) (anchor : Option Expr) :
    List Expr :=
  match dates with
  | none => []
  | some s =>
    (DateFilter.combined s.conditions [(start, some s.start), (finish, some s.finish)]).map
      fun e => match anchor with
        | some a => .paren (.or (.isNull a) e)
        | none => e

/-! ## Columns -/

/-- The instructors of a session who are the user of the row. -/
def joinInstructor : Sql.Fragment := Table.sessionInstructor.leftJoin (.and
  (.eq (Table.sessionInstructor.col "id_session") (sessionCol "id_session"))
  (.eq (Table.sessionInstructor.col "id_user") (sessionCol "id_user")))

def joinInstructors : Sql.Fragment := Table.sessionInstructors.leftJoin
  (.eq (Table.sessionInstructors.col "id_session") (sessionCol "id_session"))

/-- The time that the user of the row has attended. -/
def joinAttendance : Sql.Fragment := Table.sessionAttendance.leftJoin (.and
  (.eq (Table.sessionAttendance.col "id_session") (sessionCol "id_session"))
  (.eq (Table.sessionAttendance.col "id_user") (sessionCol "id_user")))

def detail (column : String) (archived : Expr) : Builder := fun ctx =>
  { live := ctx.col .sessionEnrollment column, archived := archived }

/-- A point in time of the session or of the enrollment in it. -/
def time (column record key : String) : Builder := fun ctx =>
  { live := ctx.time (ctx.col .sessionEnrollment column)
    archived := ctx.time (.apply .readTime (archived record key)) }

def scoreBase : Builder := fun ctx =>
  { live := .concat3 (.asText (ctx.col .sessionEnrollment "evaluation_score")) (.str "/")
      (.asText (ctx.col .sessionEnrollment "score_base"))
    archived := .empty }

/-- The length of the session in hours and minutes. -/
def length : Builder := fun ctx =>
  let hours := ctx.col .sessionEnrollment "total_hours"
  let seconds := Expr.op .times (.paren (.op .over hours (.int 60))) (.int 3600)
  let minutes := Expr.cast (.op .modulo (.paren seconds) (.int 60)) "INTEGER"
  { live := .caseOf
      [(.eq minutes (.int 0), .concat2 (.asText (.cast hours "INTEGER")) (.str "h"))]
      (.call "CONCAT" (.list (.asText (.cast (.call "FLOOR" hours) "INTEGER"))
        [.str "h ", .asText minutes, .str "m"]))
    archived := .empty }

/-- Distinct values of the instructors that are set for the whole session. -/
def instructorValues (value : Expr) : Column :=
  { live := .joinDistinct (.whenever (.isNull (Table.sessionInstructors.col "id_date")) value)
    archived := .empty
    liveParts := [joinInstructors] }

def instructorNames : Builder := fun _ =>
  instructorValues (Table.sessionInstructors.col "userid")

def instructorFullNames : Builder := fun ctx =>
  instructorValues (ctx.fullName (Table.sessionInstructors.col "firstname")
    (Table.sessionInstructors.col "lastname"))

/-- The way of attending in words. -/
def attendanceName (ctx : Context) (type : Expr) : Expr :=
  let is (a : Attendance) := Expr.eq type a.expr
  .caseOf [
    (is .blended, ctx.wording .sessionAttendanceTypeBlended),
    (is .flexible, ctx.wording .sessionAttendanceTypeFlexible),
    (is .fullOnline, ctx.wording .sessionAttendanceTypeFullonline),
    (is .fullOnsite, ctx.wording .sessionAttendanceTypeFullonsite)]
    .empty

def attendanceType : Builder := fun ctx =>
  { live := attendanceName ctx (ctx.col .sessionEnrollment "attendance_type")
    archived := attendanceName ctx (archived "attendance_info" "type") }

def sessionColumn? : Field → Option Builder
  | .sessionName => some (detail "name" (archived "session_info" "name"))
  | .sessionCode => some (detail "session_code" (archived "session_info" "code"))
  | .sessionUniqueId => some (detail "uid_session" (archived "session_info" "uid"))
  | .sessionStartDate => some (time "date_begin" "session_info" "start_at")
  | .sessionEndDate => some (time "date_end" "session_info" "end_at")
  | .sessionEvaluationScoreBase => some scoreBase
  | .sessionTimeSession => some length
  | .sessionInstructorUserids => some instructorNames
  | .sessionInstructorFullnames => some instructorFullNames
  | .sessionAttendanceType => some attendanceType
  | .sessionMinimumEnrollments => some (detail "min_enroll" .null)
  | .sessionMaximumEnrollments => some (detail "max_enroll" .null)
  | _ => none

/-- The level of the user in the course; the instructors of the session count as teachers. -/
def userLevel : Builder := fun ctx =>
  { live := .caseOf [
      (.notNull (ctx.col .sessionInstructor "id_user"), ctx.wording .courseuserLevelTeacher),
      (.eq (ctx.col .enrollment "level") (.int 4), ctx.wording .courseuserLevelTutor)]
      (ctx.wording .courseuserLevelStudent)
    archived := EnrollmentColumns.levelName ctx (archivedCol "enrollment_level")
    liveParts := [joinInstructor] }

def enrollmentStatus : Builder := fun ctx =>
  { live := EnrollmentColumns.statusName ctx (ctx.col .enrollment "status") none
    archived := EnrollmentColumns.statusName ctx (archivedCol "enrollment_status") none }

/-- The status of the enrollment in the session in words. -/
def statusName (ctx : Context) (status : Expr) : Expr :=
  let is (s : EnrollmentStatus) := Expr.eq status s.expr
  .caseOf [
    (is .waitingList, ctx.wording .courseuserStatusWaitingList),
    (is .subscribed, ctx.wording .courseuserStatusEnrolled),
    (is .inProgress, ctx.wording .courseuserStatusInProgress),
    (is .completed, ctx.wording .courseuserStatusCompleted),
    (is .suspended, ctx.wording .courseuserStatusSuspended)]
    .empty

def sessionStatus : Builder := fun ctx =>
  { live := statusName ctx (ctx.col .sessionEnrollment "status")
    archived := statusName ctx archivedStatus }

/-- The outcome of the evaluation in words. -/
def evaluationName (ctx : Context) (status : Expr) : Expr :=
  .caseOf [
    (.eq status (.int 1), ctx.wording .evaluationStatusPassed),
    (.eq status (.int (-1)), ctx.wording .evaluationStatusFailed)]
    .empty

def evaluation : Builder := fun ctx =>
  { live := evaluationName ctx (ctx.col .sessionEnrollment "evaluation_status")
    archived := evaluationName ctx
      (.cast (archived "attendance_info" "attendance.status") "int") }

/-- The time attended out of the time of the session. -/
def attendance : Builder := fun ctx =>
  let spent := ctx.col .sessionAttendance "attendance_time_spent"
  let total := ctx.col .sessionAttendance "session_total_time"
  let hours := ctx.col .sessionEnrollment "total_hours"
  let whole := Expr.caseOf
    [(.eq (.op .modulo hours (.int 60)) (.int 0), .concat2 (.asText hours) (.str " h"))]
    (.concat2 (.str "0h / ") (.str "0h"))
  { live := .caseOf
      [(.and (.eq spent (.str "0h")) (.eq total (.str "0h")), .paren whole)]
      (.concat3 (.asText spent) (.str " / ") (.asText total))
    archived := .empty
    liveParts := [joinAttendance] }

def enrollmentColumn? : Field → Option Builder
  | .courseuserDateComplete => EnrollmentColumns.column? .courseuserDateComplete
  | .courseESignatureHash => EnrollmentColumns.column? .courseESignatureHash
  | .enrollmentArchivingDate => EnrollmentColumns.column? .enrollmentArchivingDate
  | .enrollmentArchived => EnrollmentColumns.column? .enrollmentArchived
  | .enrollmentUserCourseLevel => some userLevel
  | .enrollmentDate => some (EnrollmentColumns.time "date_inscr" "enrollment_enrolled_at")
  | .enrollmentEnrollmentStatus => some enrollmentStatus
  | .enrollmentUserSessionStatus => some sessionStatus
  | .enrollmentUserSessionSubscribeDate =>
    some (time "date_subscribed" "enrollment_info" "created_at")
  | .enrollmentUserSessionCompleteDate =>
    some (time "date_completed" "enrollment_info" "completed_at")
  | .enrollmentEvaluationStatus => some evaluation
  | .enrollmentLearnerEvaluation => some (detail "evaluation_score" .null)
  | .enrollmentInstructorFeedback => some (detail "evaluation_text" .empty)
  | .enrollmentAttendance => some attendance
  | _ => none

def column? (f : Field) : Option Builder :=
  UserColumns.column? f <|> CourseColumns.column? f <|> sessionColumn? f <|> enrollmentColumn? f

def customColumn (ctx : Context) (f : ResolvedField) : Column :=
  match f.field.entity with
  | .user => CustomColumns.user (Table.enrollment.col "idUser") ctx f
  | .course => CustomColumns.course (Table.enrollment.col "idCourse") ctx f
  | .session =>
    CustomColumns.keyed .sessionFieldValue "id_session" (sessionCol "id_session") .empty ctx f
  | .enrollment | .plan => CustomColumns.emptyColumn

/-! ## Base -/

/-- The sessions that the picked instructors teach. -/
def taught (ctx : Context) : List Expr :=
  let instructors := Selection.instructors ctx.definition
  when (!instructors.isUnrestricted) [.inSelect false (.name "id_session") (.name "id_session")
    Table.sessionInstructor.name
    (.joined .and .always (instructors.conditions (.name "id_user")))]

def sessionEnrollments (ctx : Context) : List Expr :=
  ctx.filters.users.conditions (.name "id_user")
  ++ ctx.filters.courses.conditions (.name "course_id")
  ++ taught ctx

/-- The live enrollments. -/
def live (ctx : Context) : List Sql.Fragment :=
  sources ctx (enrollments ctx ++ enrollmentDates ctx)
    (courses ctx ++ [.eq (.name "course_type") (.str "classroom")])
  ++ [Table.sessionEnrollment.joinRows (sessionEnrollments ctx) (.and
      (.eq (sessionCol "course_id") (Table.enrollment.col "idCourse"))
      (.eq (sessionCol "id_user") (Table.enrollment.col "idUser")))]
  ++ when ctx.onlyLearners [joinInstructor,
      .restrict (.and (.isNull (Table.sessionInstructor.col "id_user")))]
  ++ restrictAll (noVisitors
    :: statusFilter ctx.definition.enrollment (sessionCol "status") (some (sessionCol "waiting"))
    ++ ctx.filters.sessions.conditions (sessionCol "id_session")
    ++ attendanceFilter ctx.definition.attendance (sessionCol "attendance_type")
    ++ datesFilter ctx.definition.sessionDates (sessionCol "date_begin") (sessionCol "date_end")
      (some (sessionCol "id_user")))
  ++ [.groupBy [Table.enrollment.col "idUser", Table.enrollment.col "idCourse",
      sessionCol "id_session"]]

/-- The archived enrollments. -/
def archive (ctx : Context) : List Sql.Fragment := [
  Restrictions.archive,
  Table.archivedSession.join
    (.eq (archivedCol "id") (Table.archivedSession.col "id_archived_enrollment_course"))]
  ++ restrictAll (.eq (CourseColumns.archived "type") (.str "classroom")
    :: archivedUsersAndCourses ctx
    ++ ctx.filters.sessions.conditions (Table.archivedSession.col "session_id")
    ++ archivedLearners ctx
    ++ archivedDates ctx
    ++ statusFilter ctx.definition.enrollment archivedStatus none
    ++ attendanceFilter ctx.definition.attendance (archived "attendance_info" "type")
    ++ datesFilter ctx.definition.sessionDates
      (.apply .readTime (archived "session_info" "start_at"))
      (.apply .readTime (archived "session_info" "end_at")) none)

def base (ctx : Context) : Base := { live := live ctx, archive := archive ctx }

end LearningReports.ClassroomSessions
