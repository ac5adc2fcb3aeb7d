import LearningReports.Report.Context

/-! # Gathering

What a report needs from the directory and the warehouse, in the order in which it is asked for:
wordings, custom fields, filters and the conditions on custom fields of the users. -/
namespace LearningReports.Gather

/-- Puts a text into an increasing list that does not hold it. -/
def insertText (s : String) : List String → List String
  | [] => [s]
  | t :: ts => if s < t then s :: t :: ts else if s = t then t :: ts else t :: insertText s ts

/-- The texts of a list in order, each once. -/
def sortedTexts (ss : List String) : List String := ss.foldr insertText []

/-- The standard fields among the selected texts, each once. -/
def standardFields (d : Definition) : List Field := (d.fields.filterMap Field.ofId?).eraseDups

/-- The keys whose wordings a report needs. -/
def keys (d : Definition) : List String :=
  sortedTexts ((standardFields d).map Field.labelKey ++ Wording.all.map Wording.labelKey)

/-- The labels of the standard fields; a key without a wording stands for itself. -/
def fieldLabels (d : Definition) (wordings : List (String × Json)) : CustomFields.Labels :=
  (standardFields d).map fun f =>
    (f.id, (lookup? f.labelKey wordings).getD (.str f.labelKey))

variable {m : Type → Type} [Monad m] [MonadExceptOf Failure m]

def filtersOf (dir : Directory m) (d : Definition) (s : Session) (checkVisibility : Bool)
    (done : Filters) : FilterKind → m Filters
  | .users => return { done with users := ← Selection.users dir d s checkVisibility }
  | .courses => return { done with courses := ← Selection.courses dir d s checkVisibility }
  | .plans => return { done with plans := ← Selection.plans dir d s checkVisibility }
  | .sessions => return { done with sessions := Selection.pickedEntities d.sessions }
  | .surveys => return { done with surveys := Selection.pickedEntities d.surveys }
  | .assets => return { done with
      assets := Selection.assets d, channels := Selection.channels d }

def filters (dir : Directory m) (d : Definition) (s : Session) (checkVisibility : Bool) :
    m Filters :=
  d.type.filterKinds.foldlM (filtersOf dir d s checkVisibility) {}

def context (dir : Directory m) (w : Warehouse) (d : Definition) (s : Session)
    (checkVisibility : Bool) : m Context := do
  let wordings ← dir.wordings (keys d) s.langCode
  let custom ← CustomFields.resolve dir w d.fields d.type.entities (fieldLabels d wordings)
  let filters ← filters dir d s checkVisibility
  let conditions ← if FilterKind.users ∈ d.type.filterKinds then Selection.userConditions dir d
    else pure []
  return {
    definition := d
    session := s
    labels := custom.labels
    wordings := wordings
    filters := filters
    customFields := custom.fields
    userConditions := conditions }

end LearningReports.Gather
