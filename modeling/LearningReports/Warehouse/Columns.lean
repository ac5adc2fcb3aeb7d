import LearningReports.Failure
import LearningReports.Json.Value
import LearningReports.Text.LowerCase

/-! # Columns of the warehouse

Some columns exist only after the warehouse has materialized them. Before a query names such a
column it asks whether the column is there; letter case does not matter. -/
namespace LearningReports

/-- What is known of the tables of a warehouse. -/
inductive Warehouse where
  /-- Every column is taken to be there. -/
  | complete
  /-- The tables and columns are listed; a table that is not listed has no columns. -/
  | listed (tables : List (String × List String))
  /-- The tables are looked up in a running engine, which refuses to speak of unknown tables. -/
  | engine (tables : List (String × List String))
  deriving Repr, DecidableEq

namespace Warehouse

/-- One of the columns has the name, letter case aside. -/
def holds (columns : List String) (column : String) : Bool :=
  (columns.map Text.lower).contains (Text.lower column)

def hasColumn (w : Warehouse) (table column : String) : Outcome Bool :=
  match w with
  | .complete => .ok true
  | .listed tables => .ok (holds ((lookup? table tables).getD []) column)
  | .engine tables =>
    match lookup? table tables with
    | some columns => .ok (holds columns column)
    | none => .error .noSuchTable

@[simp] theorem hasColumn_complete (table column : String) :
    hasColumn .complete table column = .ok true := rfl

end Warehouse
end LearningReports
