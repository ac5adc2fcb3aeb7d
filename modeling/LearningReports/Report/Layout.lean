import LearningReports.Report.Kinds

/-! # The columns of a report

Every selected field has one of three fates: it is dropped because a feature that it depends on is
off, it is unmapped because the report has no column for it, or it becomes a column. -/
namespace LearningReports

open Sql (Expr Fragment)

/-- What becomes of a selected field. -/
inductive Fate where
  | dropped
  | unmapped
  | column (key : String) (c : Column)
  deriving Repr

namespace Layout

/-- The field depends on a feature that is off. -/
def isDropped (ctx : Context) (text : String) : Bool :=
  match (Field.ofId? text).bind ctx.type.gate? with
  | some feature => !ctx.session.platform.hasFeature feature
  | none => false

/-- The fate of a custom field; one whose values are not in the warehouse is empty. -/
def customFate (ctx : Context) (f : CustomField) : Fate :=
  match lookup? f.key ctx.customFields with
  | none => .unmapped
  | some r =>
    .column f.key
      (if r.isMaterialized then ctx.type.customColumn ctx r else CustomColumns.emptyColumn)

/-- The fate of a text that names no custom field. -/
def standardFate (ctx : Context) (text : String) : Fate :=
  match (Field.ofId? text).bind ctx.type.column? with
  | some build => .column text (build ctx)
  | none => .unmapped

/-- The fate of a selected text. A number too long for a custom field was refused before. -/
def fate (ctx : Context) (text : String) : Fate :=
  if isDropped ctx text then .dropped
  else
    match CustomField.parse text with
    | .ok (some f) => customFate ctx f
    | .ok none => standardFate ctx text
    | .error _ => .unmapped

/-- The fates of the selected texts, in order and with repetitions. -/
def fates (ctx : Context) : List (String × Fate) :=
  ctx.definition.fields.map fun text => (text, fate ctx text)

/-- The dropped texts. -/
def dropped (ctx : Context) : List String :=
  (fates ctx).filterMap fun (text, f) => match f with
    | .dropped => some text
    | _ => none

/-- The unmapped texts. -/
def unmapped (ctx : Context) : List String :=
  (fates ctx).filterMap fun (text, f) => match f with
    | .unmapped => some text
    | _ => none

/-- The columns with the keys of their fields. -/
def columns (ctx : Context) : List (String × Column) :=
  (fates ctx).filterMap fun (_, f) => match f with
    | .column key c => some (key, c)
    | _ => none

/-- The label of a field as the name of a column. -/
def aliasOf (ctx : Context) (key : String) : Expr := .label (ctx.label key).asText

/-- The labels of the columns. -/
def labels (ctx : Context) : List Json := (columns ctx).map fun (key, _) => ctx.label key

/-- The column that stands in when a report has none. -/
def placeholder : Fragment := .select .null (.label "-")

/-- The result columns, or the placeholder. -/
def selection (ctx : Context) (expr : Column → Expr) : List Fragment :=
  match columns ctx with
  | [] => [placeholder]
  | cs => cs.map fun (key, c) => .select (expr c) (aliasOf ctx key)

def liveFragments (ctx : Context) : List Fragment :=
  (ctx.type.base ctx).live ++ (columns ctx).flatMap (·.2.liveParts) ++ selection ctx (·.live)

/-- The fragments of the branch of archived enrollments. -/
def archiveFragments (ctx : Context) : List Fragment :=
  (ctx.type.base ctx).archive ++ (columns ctx).flatMap (·.2.archiveParts)
    ++ selection ctx (·.archived)

def live (ctx : Context) : Sql.Branch := .ofFragments (liveFragments ctx)

def archive (ctx : Context) : Sql.Branch := .ofFragments (archiveFragments ctx)

end Layout
end LearningReports
