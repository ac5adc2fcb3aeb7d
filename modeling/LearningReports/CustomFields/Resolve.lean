import LearningReports.CustomFields.Labels
import LearningReports.CustomFields.Materialized
import LearningReports.Directory.Basic

/-! # Custom fields of a report

The selected custom fields are looked up in the directory and in the warehouse. The directory is
asked only for the entities of which a field is selected. -/
namespace LearningReports

/-- A selected custom field that the directory knows. -/
structure ResolvedField where
  field : CustomField
  title : Json
  type : String
  isMaterialized : Bool
  deriving Repr

namespace CustomFields

/-- The resolved fields by key and the labels with their titles. -/
structure Resolution where
  fields : List (String × ResolvedField) := []
  labels : Labels
  deriving Repr

def selected (texts : List String) : Outcome (List CustomField) := do
  return (← texts.mapM CustomField.parse).filterMap id

/-- The number stands for one of the selected fields. -/
def wanted? (fields : List CustomField) (number : Int) : Option CustomField :=
  fields.find? fun f => (f.number : Int) == number

/-- The resolved fields with one more field, if it was selected. -/
def resolveOne (w : Warehouse) (wanted : List CustomField) (labels : Labels)
    (done : List (String × ResolvedField)) (f : FieldMetadata) :
    Outcome (List (String × ResolvedField)) :=
  match wanted? wanted f.id with
  | none => .ok done
  | some field => do
    let materialized ← field.isMaterialized w
    return bindKey field.key
      { field := field, title := (lookup? field.key labels).getD .null, type := f.type
        isMaterialized := materialized } done

/-- The labels with the titles of an entity's custom fields. Labels that cannot be compared are a
failure. -/
def titled (e : Entity) (known : List FieldMetadata) (labels : Labels) : Outcome Labels :=
  if labels.all (·.2.isKey) then .ok (addTitles e known labels) else .error .wrongType

def resolveEntity (w : Warehouse) (e : Entity) (wanted : List CustomField)
    (known : List FieldMetadata) (r : Resolution) : Outcome Resolution := do
  let labels ← titled e known r.labels
  return { fields := ← known.foldlM (resolveOne w wanted labels) r.fields, labels := labels }

variable {m : Type → Type} [Monad m] [MonadExceptOf Failure m]

def resolveEntities (dir : Directory m) (w : Warehouse) (fields : List CustomField) :
    List Entity → Resolution → m Resolution
  | [], r => pure r
  | e :: es, r => do
    let wanted := fields.filter (·.entity == e)
    if wanted.isEmpty then resolveEntities dir w fields es r
    else
      let known ← dir.customFields e
      let r ← (resolveEntity w e wanted known r).lift
      resolveEntities dir w fields es r

/-- The selected custom fields of the given entities, and the labels with their titles. -/
def resolve (dir : Directory m) (w : Warehouse) (texts : List String) (entities : List Entity)
    (labels : Labels) : m Resolution := do
  let fields ← (selected texts).lift
  resolveEntities dir w fields entities { labels := labels }

def entryOf (e : Entity) (f : FieldMetadata) : CatalogEntry :=
  { field := CustomField.keyOf e f.id, labelKey := f.title, mandatory := false, custom := true
    category := e.name, feature := none }

def available (dir : Directory m) (e : Entity) : m (List CatalogEntry) := do
  return (← dir.customFields e).map (entryOf e)

end CustomFields
end LearningReports
