import LearningReports.Report.Columns.Enrollment

/-! # Columns of usage

How far, how long and through which channel a user has worked on a course. -/
namespace LearningReports.UsageColumns

open Sql (Expr)

/-- The totals of the visits to the course. -/
def joinTracking : Sql.Fragment := joinByEnrollment .tracking "idUser" "idCourse"

def percent (part whole : Expr) : Expr :=
  .op .over (.paren (.op .times part (.int 100))) whole

def completion : Builder := fun ctx =>
  let completed := ctx.col .completedItems "completed"
  let count := ctx.col .courseItemCount "count"
  { live := .caseOf [(.and (.notNull completed) (.gt count (.int 0)), percent completed count)]
      (.int 0)
    liveParts := [
      Table.courseItemCount.leftJoin
        (.eq (Table.courseItemCount.col "idCourse") (Table.enrollment.col "idCourse")),
      joinByEnrollment .completedItems "idUser" "idCourse"] }

/-- A total of the visits to the course. -/
def total (column : String) (archived : Expr) : Builder := fun ctx =>
  { live := ctx.col .tracking column, archived := archived, liveParts := [joinTracking] }

def sessionTime : Builder := fun ctx =>
  { live := ctx.col .courseTime "session_time"
    archived := archivedCol "enrollment_time_spent"
    liveParts := [joinByEnrollment .courseTime "id_user" "course_id"] }

/-- The user has worked through a channel. -/
def hasAccess (channel : String) : Builder := fun ctx =>
  { live := .choose (.op .differs (ctx.col .tracking ("numberOfActions" ++ channel)) (.int 0))
      (ctx.wording .yes) (ctx.wording .no)
    archived := .empty
    liveParts := [joinTracking] }

/-- The part of the time that was spent through a channel. -/
def share (channel : String) : Builder := fun ctx =>
  let whole := ctx.col .tracking "totalTime"
  { live := .choose (.gt whole (.int 0))
      (percent (ctx.col .tracking ("totalTime" ++ channel)) whole) (.int 0)
    liveParts := [joinTracking] }

def timeSpent (channel : String) : Builder := fun ctx =>
  let time := ctx.col .tracking ("totalTime" ++ channel)
  { live := .choose (.notNull time) time (.int 0), liveParts := [joinTracking] }

def column? : Field → Option Builder
  | .statsUserCourseCompletionPercentage => some completion
  | .statsTotalTimeInCourse => some (total "totalTime" .null)
  | .statsTotalSessionsInCourse => some (total "actions" (archivedCol "enrollment_sessions_count"))
  | .statsNumberOfActions => some (total "numberOfActions" .null)
  | .statsSessionTime => some sessionTime
  | .statsUserFlowYesNo => some (hasAccess "Flow")
  | .statsUserCourseFlowPercentage => some (share "Flow")
  | .statsUserCourseTimeSpentByFlow => some (timeSpent "Flow")
  | .statsCourseAccessFromMobile => some (hasAccess "GoLearn")
  | .statsPercentageOfCourseFromMobile => some (share "GoLearn")
  | .statsTimeSpentFromMobile => some (timeSpent "GoLearn")
  | .statsUserFlowMsTeamsYesNo => some (hasAccess "FlowMsTeams")
  | .statsUserCourseFlowMsTeamsPercentage => some (share "FlowMsTeams")
  | .statsUserCourseTimeSpentByFlowMsTeams => some (timeSpent "FlowMsTeams")
  | _ => none

end LearningReports.UsageColumns
