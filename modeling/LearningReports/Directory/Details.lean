import LearningReports.Validation.Decoder

/-! # Records of the directory

What the directory tells of custom fields, groups and branches. -/
namespace LearningReports

/-- A custom field as the directory describes it. -/
structure FieldMetadata where
  id : Int
  title : String := ""
  type : String := ""
  deriving Repr, DecidableEq

structure GroupDetails where
  id : Int
  title : String := ""
  members : List Int := []
  deriving Repr, DecidableEq

/-- A branch with the ids of its direct children. -/
structure BranchDetails where
  id : Int
  title : String := ""
  code : String := ""
  children : List Int := []
  members : List Int := []
  deriving Repr, DecidableEq

namespace Decode

/-- The member under the first of several names that is there, or a default. -/
def firstOf {α : Type} (ms : Members) (names : List String) (d : Decoder α) (default : α) :
    Checked α :=
  match names.findSome? fun name => (lookup? name ms).map fun v => (name, v) with
  | some (name, v) => (d v).at (.key name)
  | none => .valid default

def plain {α : Type} (ms : Members) (name : String) (d : Decoder α) (default : α) : Checked α :=
  optional ms name name d default

def fieldMetadata : Decoder FieldMetadata := object (.notModel "ExtraFieldMetadata") fun ms =>
  FieldMetadata.mk
    <$> required ms "id" "id" int
    <*> firstOf ms ["title", "name", "translation"] text ""
    <*> plain ms "type" text ""

def groupDetails (id : Int) (ms : Members) : Checked GroupDetails :=
  GroupDetails.mk id
    <$> firstOf ms ["title", "groupid", "name"] text ""
    <*> plain ms "members" (list int) []

def branchDetails (id : Int) (ms : Members) : Checked BranchDetails :=
  BranchDetails.mk id
    <$> firstOf ms ["title", "name"] text ""
    <*> plain ms "code" text ""
    <*> plain ms "children" (list int) []
    <*> plain ms "members" (list int) []

end Decode
end LearningReports
