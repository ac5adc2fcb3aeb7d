import LearningReports.CustomFields.Materialized

/-! # Inspectors of the warehouse

An inspector answers questions about columns and remembers the columns of each table, in lower case.
What is listed is remembered from the start; what an engine knows is looked up when it is first
asked for. A table of which the engine refuses to speak is not remembered. -/
namespace LearningReports

structure Inspector where
  warehouse : Warehouse
  /-- The columns by table. -/
  remembered : List (String × List String)

namespace Inspector

/-- The inspector of a warehouse before the first question. -/
def fresh (w : Warehouse) : Inspector where
  warehouse := w
  remembered := match w with
    | .listed tables => tables.map fun (table, columns) => (table, columns.map Text.lower)
    | .complete | .engine _ => []

/-- The columns of a table, or none when every column is taken to be there; and the inspector after
the question. -/
def columns (i : Inspector) (table : String) : Outcome (Option (List String)) × Inspector :=
  match lookup? table i.remembered with
  | some columns => (.ok (some columns), i)
  | none =>
    match i.warehouse with
    | .complete => (.ok none, i)
    | .listed _ => (.ok (some []), i)
    | .engine tables =>
      match lookup? table tables with
      | none => (.error .noSuchTable, i)
      | some columns =>
        let lowered := columns.map Text.lower
        (.ok (some lowered), { i with remembered := bindKey table lowered i.remembered })

def hasColumn (i : Inspector) (table column : String) : Outcome Bool × Inspector :=
  let (known, next) := i.columns table
  (known.map fun columns => columns.all (·.contains (Text.lower column)), next)

def isMaterialized (i : Inspector) (f : CustomField) : Outcome Bool × Inspector :=
  i.hasColumn f.entity.valueTable.name f.column

/-- The answers to questions about custom fields, one after the other. -/
def answers (i : Inspector) : List CustomField → List (Outcome Bool)
  | [] => []
  | f :: fs =>
    let (answer, next) := i.isMaterialized f
    answer :: next.answers fs

end Inspector
end LearningReports
