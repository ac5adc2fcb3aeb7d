import LearningReports.Report.Context

/-! # Columns of users

The archive keeps a record of the user beside each enrollment; columns that the record does not
have are empty there. -/
namespace LearningReports.UserColumns

open Sql (Expr)

/-- A value of the archived record of the user. -/
def archived (key : String) : Expr := archivedField "user_info" key

def userCol (ctx : Context) (column : String) : Expr := ctx.col .user column

def joinByUser (t : Table) (column : String) : Sql.Fragment :=
  t.leftJoin (.eq (t.col column) (Table.user.col "idst"))

/-- A column of the user under the same name as a key of the archived record. -/
def shared (column : String) : Builder := fun ctx =>
  { live := userCol ctx column, archived := archived column }

def userTime (column : String) : Builder := fun ctx => { live := ctx.time (userCol ctx column) }

def id : Builder := fun ctx =>
  { live := userCol ctx "idst", archived := archivedCol "user_id" }

/-- User names are kept behind a slash. -/
def userName : Builder := fun ctx =>
  { live := .dropFirst (userCol ctx "userid"), archived := .dropFirst (archived "username") }

def fullName : Builder := fun ctx =>
  { live := ctx.fullName (userCol ctx "firstname") (userCol ctx "lastname")
    archived := ctx.fullName (archived "firstname") (archived "lastname") }

def emailStatus : Builder := fun ctx =>
  { live := .caseOf [(.eq (userCol ctx "email_status") (.int 0), ctx.wording .no)]
      (ctx.wording .yes) }

def level : Builder := fun ctx =>
  let level := ctx.col .userLevel "level"
  { live := .caseOf [
      (.eq level (.str "/framework/level/godadmin"), ctx.wording .userLevelGodadmin),
      (.eq level (.str "/framework/level/admin"), ctx.wording .userLevelPoweruser)]
      (ctx.wording .userLevelUser)
    liveParts := [joinByUser .userLevel "idUser"] }

def deactivated : Builder := fun ctx =>
  { live := .caseOf [(.eq (userCol ctx "valid") (.int 1), ctx.wording .no)] (ctx.wording .yes)
    archived := .empty }

def expiration : Builder := fun ctx => { live := userCol ctx "expiration" }

def branchName : Builder := fun ctx =>
  { live := ctx.col .userBranchNames "branches_names"
    liveParts := [joinByUser .userBranchNames "idst"] }

def branchPath : Builder := fun ctx =>
  { live := ctx.col .userBranches "branches", liveParts := [joinByUser .userBranches "idst"] }

def branchCodes : Builder := fun ctx =>
  { live := ctx.col .userBranches "codes"
    archived := .empty
    liveParts := [joinByUser .userBranches "idst"] }

/-- The manager of the first kind: both names, or the user name of a manager without names. -/
def directManager : Builder := fun ctx =>
  let fullName := ctx.fullName (ctx.col .manager "firstname") (ctx.col .manager "lastname")
  { live := .choose (.eq fullName (.str " ")) (.dropFirst (ctx.col .manager "userid")) fullName
    liveParts := [
      Table.supervisor.leftJoin (.and
        (.eq (Table.supervisor.col "idEmployee") (Table.user.col "idst"))
        (.eq (Table.supervisor.col "type") (.int 1))),
      Table.manager.leftJoin
        (.eq (Table.manager.col "idst") (Table.supervisor.col "idManager"))] }

def column? : Field → Option Builder
  | .userId => some id
  | .userUserid => some userName
  | .userFirstname => some (shared "firstname")
  | .userLastname => some (shared "lastname")
  | .userFullname => some fullName
  | .userEmail => some (shared "email")
  | .userEmailValidationStatus => some emailStatus
  | .userLevel => some level
  | .userDeactivated => some deactivated
  | .userExpiration => some expiration
  | .userSuspendDate => some (userTime "suspend_date")
  | .userRegisterDate => some (userTime "register_date")
  | .userLastAccessDate => some (userTime "lastenter")
  | .userBranchName => some branchName
  | .userBranchPath => some branchPath
  | .userBranchesCodes => some branchCodes
  | .userDirectManager => some directManager
  | _ => none

end LearningReports.UserColumns
