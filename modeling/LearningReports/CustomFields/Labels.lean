import LearningReports.Catalog.CustomField
import LearningReports.Directory.Details
import LearningReports.Json.Shown

/-! # Labels of custom fields

The titles of custom fields join the labels of a report under the keys of the fields. A title that
is already in use as a label gets the name of the entity behind it. -/
namespace LearningReports.CustomFields

/-- Labels by the key of their field. Labels from the directory are texts, but nothing ensures it.
-/
abbrev Labels := List (String × Json)

/-- The text is in use as a label. -/
def isUsed (used : List String) (title : String) : Bool := used.contains title

/-- The title as a label: itself while it is not in use, else with the entity behind it. -/
def labelFor (e : Entity) (used : List String) (title : String) : String :=
  if isUsed used title then title ++ " (" ++ e.name ++ ")" else title

/-- Labels, and the texts that are in use; a label that gave way stays in use. -/
structure Labelling where
  labels : Labels
  used : List String

def Labelling.add (e : Entity) (l : Labelling) (f : FieldMetadata) : Labelling :=
  let label := labelFor e l.used f.title
  { labels := bindKey (CustomField.keyOf e f.id) (.str label) l.labels
    used := label :: l.used }

def usedTexts (labels : Labels) : List String := labels.filterMap (·.2.text?)

def addTitles (e : Entity) (fields : List FieldMetadata) (labels : Labels) : Labels :=
  (fields.foldl (Labelling.add e) { labels := labels, used := usedTexts labels }).labels

@[simp] theorem addTitles_nil (e : Entity) (labels : Labels) : addTitles e [] labels = labels := rfl

end LearningReports.CustomFields
