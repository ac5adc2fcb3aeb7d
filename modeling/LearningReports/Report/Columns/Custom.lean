import LearningReports.Report.Context

/-! # Columns of custom fields

A custom field is shown by its type: dates as days, options and countries by their names, yes and no
in words, texts as they are. A field of another type is empty. -/
namespace LearningReports.CustomColumns

open Sql (Expr)

/-- The types whose values are shown as they are. -/
def textTypes : List String := ["codicefiscale", "freetext", "gmail", "icq", "msn", "skype",
  "textfield", "text", "textarea", "yahoo", "upload"]

/-- How the values of a type of field are shown. -/
inductive Kind where
  | date
  | dropdown
  | yesNo
  | country
  | text
  | unknown
  deriving Repr, DecidableEq

/-- How the values of a named type are shown. -/
def Kind.ofType (type : String) : Kind :=
  if type = "date" then .date
  else if type = Selection.dropdownType then .dropdown
  else if type = "yesno" then .yesNo
  else if type = "country" then .country
  else if type ∈ textTypes then .text
  else .unknown

def kindOf (f : ResolvedField) : Kind := .ofType f.type

/-- The empty column of a field without values. -/
def emptyColumn : Column := { live := .empty, archived := .empty }

/-- A short name of a table for one custom field. -/
def aliasFor (start : String) (f : ResolvedField) : String :=
  start ++ "_" ++ toString f.field.number

def valueCol (t : Table) (f : ResolvedField) : Expr := t.col (CustomField.columnOf f.field.number)

/-- The names of the options of a field in the language of the caller, under a short name. -/
def joinOptions (ctx : Context) (options : Table) (handle : String) (option : Expr) :
    Sql.Fragment :=
  options.leftJoinAs handle (.and (.eq (.col handle "id_option") option)
    (.eq (.col handle "lang_code") ctx.language))

def user (key : Expr) (ctx : Context) (f : ResolvedField) : Column :=
  let values := Table.userFieldValue
  let stored := valueCol values f
  let value := ctx.value stored
  let joined := values.leftJoin (.eq (values.col "id_user") key)
  match kindOf f with
  | .date => { live := .apply .day value, liveParts := [joined] }
  | .dropdown =>
    let handle := aliasFor Table.userFieldOption.handle f
    { live := ctx.value (.col handle "translation")
      liveParts := [joined, joinOptions ctx .userFieldOption handle stored] }
  | .yesNo =>
    { live := .caseOf [(.eq value (.int 1), ctx.wording .yes), (.eq value (.int 2), ctx.wording .no)]
        .empty
      liveParts := [joined] }
  | .country =>
    let handle := aliasFor Table.country.handle f
    { live := ctx.value (.col handle "name_country")
      liveParts := [joined,
        Table.country.leftJoinAs handle (.eq (.col handle "id_country") stored)] }
  | .text => { live := value, liveParts := [joined] }
  | .unknown => { live := .empty, liveParts := [joined] }

/-- The expression of a field that is kept like those of courses, and the parts that it needs. -/
def courseLike (values : Table) (ctx : Context) (f : ResolvedField) :
    Expr × List Sql.Fragment :=
  let stored := valueCol values f
  let value := ctx.value stored
  match kindOf f with
  | .date => (.apply .day value, [])
  | .dropdown =>
    let handle := aliasFor (Table.courseFieldOption.handle ++ "_" ++ values.handle) f
    (ctx.value (.col handle "translation"), [joinOptions ctx .courseFieldOption handle stored])
  | .yesNo => (ctx.yesNo (.eq value (.int 1)), [])
  | .text => (value, [])
  | .country | .unknown => (.empty, [])

/-- The column of a field that is kept like those of courses, in a table joined by a key. -/
def keyed (values : Table) (column : String) (key : Expr) (archived : Expr) (ctx : Context)
    (f : ResolvedField) : Column :=
  let (live, parts) := courseLike values ctx f
  { live := live, archived := archived
    liveParts := values.leftJoin (.eq (values.col column) key) :: parts }

def course (key : Expr) (ctx : Context) (f : ResolvedField) : Column :=
  keyed .courseFieldValue "id_course" key .null ctx f

/-- The column of a custom field of the enrollments. Options have a name in each of some languages;
the language of the platform stands in for a missing one. -/
def enrollment (ctx : Context) (f : ResolvedField) : Column :=
  let stored := Expr.apply (.field (toString f.field.number))
    (Table.enrollment.col "enrollment_fields")
  match kindOf f with
  | .dropdown =>
    let handle := aliasFor Table.enrollmentFieldOption.handle f
    let names := Expr.col handle "translation"
    let code := ctx.session.languageCode.asText
    let fallback := ctx.session.platform.defaultLanguageCode.asText
    { live := ctx.value (.choose (.op .like names (.verbatim ("%\"" ++ code ++ "\":%")))
        (.apply (.quotedField code) names) (.apply (.quotedField fallback) names))
      liveParts := [Table.enrollmentFieldOption.leftJoinAs handle
        (.eq (.col handle "id") (.cast stored "INTEGER"))] }
  | _ => { live := ctx.value stored }

def ofEnrollments (ctx : Context) (f : ResolvedField) : Column :=
  match f.field.entity with
  | .user => user (Table.enrollment.col "idUser") ctx f
  | .course => course (Table.enrollment.col "idCourse") ctx f
  | .enrollment => enrollment ctx f
  | .session | .plan => emptyColumn

end LearningReports.CustomColumns
