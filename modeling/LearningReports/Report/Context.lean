import LearningReports.Catalog.Wording
import LearningReports.CustomFields.Resolve
import LearningReports.Report.DateFilter
import LearningReports.Report.Traits
import LearningReports.Selection.Filters

/-! # What columns are made from

A compilation first gathers all that depends on the directory and the warehouse. Everything after
that is a function of the gathered context: each field makes one column, the report type makes the
base of the query. Nothing here depends on the engine that will run it. -/
namespace LearningReports

open Sql (Expr Fragment)

/-- The resolved filters of a report; a kind that the report does not resolve restricts nothing. -/
structure Filters where
  users : IdFilter := .unrestricted
  courses : IdFilter := .unrestricted
  plans : IdFilter := .unrestricted
  sessions : IdFilter := .unrestricted
  surveys : IdFilter := .unrestricted
  assets : IdFilter := .unrestricted
  channels : IdFilter := .unrestricted
  deriving Repr, DecidableEq

structure Context where
  definition : Definition
  session : Session
  labels : CustomFields.Labels := []
  /-- The wordings in the language of the caller, by key. -/
  wordings : List (String × Json) := []
  filters : Filters := {}
  customFields : List (String × ResolvedField) := []
  /-- The options that custom fields of the users have to have. -/
  userConditions : List (Int × Int) := []
  deriving Repr

/-- One column of a report: its expression in each branch, and what the branches need for it. -/
structure Column where
  live : Expr
  archived : Expr := .null
  liveParts : List Fragment := []
  archiveParts : List Fragment := []
  deriving Repr, DecidableEq

/-- Makes the column of a field. -/
abbrev Builder := Context → Column

/-- What a report is before any column: the sources and conditions of its branches. -/
structure Base where
  live : List Fragment
  archive : List Fragment := []
  deriving Repr, DecidableEq

namespace Context

def type (ctx : Context) : ReportType := ctx.definition.type

/-- The report has a branch of archived enrollments. -/
def hasArchive (ctx : Context) : Bool :=
  ctx.type.supportsArchive && ctx.session.platform.hasArchive

/-- The time zone of the report, or of the caller. -/
def timezone (ctx : Context) : String :=
  if ctx.definition.timezone.isEmpty then (ctx.session.timezone.orDefault (.str "UTC")).asText
  else ctx.definition.timezone

/-- The label of a field. -/
def label (ctx : Context) (key : String) : Json := (lookup? key ctx.labels).getD (.str key)

/-- A wording in the language of the caller. -/
def wording (ctx : Context) (w : Wording) : Expr :=
  .str ((lookup? w.labelKey ctx.wordings).getD (.str w.labelKey)).asText

/-- The language of the caller. -/
def language (ctx : Context) : Expr := .str ctx.session.lang.asText

/-- A value of a row; in a grouped report, of any row of the group. -/
def value (ctx : Context) (e : Expr) : Expr :=
  if ctx.type.isGrouped then .aggregate .anyValue e else e

/-- A column as a value. -/
def col (ctx : Context) (t : Table) (column : String) : Expr := ctx.value (t.col column)

/-- A point in time as text in the time zone of the report. -/
def time (ctx : Context) (e : Expr) : Expr := .apply (.localTime ctx.timezone) e

/-- Yes under a condition, else no. -/
def yesNo (ctx : Context) (condition : Expr) : Expr :=
  .caseOf [(condition, ctx.wording .yes)] (ctx.wording .no)

/-- Both names of a person in the order of the platform. -/
def fullName (ctx : Context) (first last : Expr) : Expr :=
  if ctx.session.platform.firstNameFirst then .concat3 first (.str " ") last
  else .concat3 last (.str " ") first

/-- The users with the options that the report asks for, as a condition on a column of user ids. -/
def userFieldConditions (ctx : Context) (column : Expr) : List Expr :=
  match ctx.userConditions.map fun (field, option) =>
      Expr.eq (.name (CustomField.columnOf field)) (.int option) with
  | [] => []
  | e :: es =>
    [.inSelect false column (.name "id_user") Table.userFieldValue.name (.joined .and e es)]

/-- The condition that date options of the report make together. -/
def dates (ctx : Context) (pairs : List DateFilter.Dated) : List Expr :=
  DateFilter.combined ctx.definition.conditions pairs

def onlyLearners (ctx : Context) : Bool :=
  (ctx.definition.users.map (·.showOnlyLearners)).getD false

/-- The report leaves out deactivated users. -/
def hidesDeactivated (ctx : Context) : Bool :=
  (ctx.definition.users.map (·.hideDeactivated)).getD false

/-- The report leaves out users whose access has expired. -/
def hidesExpired (ctx : Context) : Bool := (ctx.definition.users.map (·.hideExpired)).getD false

end Context

def when {α : Type} (condition : Bool) (as : List α) : List α := if condition then as else []

def archivedCol (column : String) : Expr := Table.archivedEnrollment.col column

/-- A value in a record that an archived enrollment keeps. -/
def archivedField (column key : String) : Expr := .apply (.field key) (archivedCol column)

/-- Conditions on the rows of a branch, one after the other. -/
def restrictAll (conditions : List Expr) : List Fragment :=
  conditions.map fun e => .restrict (.and e)

end LearningReports
