import LearningReports.Catalog.CustomField
import LearningReports.Warehouse.Columns
import LearningReports.Warehouse.Table

/-! # Materialized custom fields

The values of a custom field are in the warehouse only once their column has been made. The fields
of enrollments share one column. -/
namespace LearningReports

/-- The table that holds the values of an entity's custom fields. -/
def Entity.valueTable : Entity → Table
  | .user => .userFieldValue
  | .course => .courseFieldValue
  | .enrollment => .enrollment
  | .session => .sessionFieldValue
  | .plan => .planFieldValue

namespace CustomField

def columnOf (number : Int) : String := "field_" ++ toString number

/-- The column that holds the values of the field. -/
def column (f : CustomField) : String :=
  match f.entity with
  | .enrollment => "enrollment_fields"
  | _ => columnOf f.number

def isMaterialized (w : Warehouse) (f : CustomField) : Outcome Bool :=
  w.hasColumn f.entity.valueTable.name f.column

@[simp] theorem isMaterialized_complete (f : CustomField) :
    f.isMaterialized .complete = .ok true := rfl

end CustomField
end LearningReports
