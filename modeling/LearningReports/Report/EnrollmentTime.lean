import LearningReports.Report.Columns.Custom
import LearningReports.Report.Columns.User
import LearningReports.Report.Restrictions

/-! # Time left in enrollments

Subscribed and started enrollments that can expire: their course is valid for some time, or the
enrollment itself has an end. -/
namespace LearningReports.EnrollmentTime

open Restrictions
open Sql (Expr)

/-- The end of the enrollment. It is never wrapped in an aggregate: the report is not grouped. -/
def expiry : Expr := Table.enrollment.col "date_expire_validity"

def expirationDate : Builder := fun ctx => { live := ctx.time expiry }

def daysLeft : Builder := fun _ =>
  { live := .caseOf [(.isNull expiry, .null)] (.apply .daysUntil expiry) }

/-- The column of a field of the enrollment category; the report has only some of them. -/
def enrollmentColumn? : Field → Option Builder
  | .courseuserLevel => EnrollmentColumns.column? .courseuserLevel
  | .courseuserDateInscr => EnrollmentColumns.column? .courseuserDateInscr
  | .courseuserStatus => EnrollmentColumns.column? .courseuserStatus
  | .courseuserDateBeginValidity => EnrollmentColumns.column? .courseuserDateBeginValidity
  | .courseESignatureHash => EnrollmentColumns.column? .courseESignatureHash
  | .courseuserExpirationDate => some expirationDate
  | .courseuserDaysLeft => some daysLeft
  | _ => none

def column? (f : Field) : Option Builder :=
  UserColumns.column? f <|> CourseColumns.column? f <|> enrollmentColumn? f

def customColumn : Context → ResolvedField → Column := CustomColumns.ofEnrollments

def hasStatus (s : EnrollmentStatus) : Expr := .eq (Table.enrollment.col "status") s.expr

def base (ctx : Context) : Base :=
  { live := sources ctx (enrollments ctx) (courses ctx) ++ restrictAll [
      noVisitors,
      .paren (.or (hasStatus .subscribed) (hasStatus .inProgress)),
      .paren (.or (.gt (Table.course.col "valid_time") (.int 0)) (.notNull expiry))] }

end LearningReports.EnrollmentTime
