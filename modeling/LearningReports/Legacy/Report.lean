import LearningReports.Definition.Encode
import LearningReports.Validation.Decoder

/-! # Legacy reports

Reports as an older reporting tool kept them, and the rules by which it shared them. Their members
are texts; numbers are taken as texts too. -/
namespace LearningReports.Legacy

/-- What a legacy report shows: written JSON or its members. -/
inductive FilterData where
  | text (s : String)
  | members (ms : List (String × Json))
  deriving Repr

structure Report where
  idFilter : String
  typeId : String
  author : String := "0"
  creationDate : String := ""
  name : String := ""
  data : FilterData := .text "\x7b\x7d"
  isPublic : String := "0"
  views : String := "0"
  isStandard : String := "0"
  idJob : Option String := none
  lastEditBy : Option String := none
  lastEdit : Option String := none
  visibility : String := "private"
  deriving Repr

/-- One member with whom a legacy report is shared. -/
structure VisibilityRule where
  idReport : String
  memberType : String
  memberId : String
  selectState : String := "1"
  deriving Repr, DecidableEq

structure ImportRequest where
  reports : List Report
  rules : List VisibilityRule := []
  platform : String := ""
  deriving Repr

/-- The result of an import: the new definitions, and the reports that have none. -/
structure ImportResult where
  parsed : List Definition := []
  notParsed : List Report := []
  deriving Repr

namespace Decode

open LearningReports.Decode

/-- Written JSON or an object; otherwise the issues of both. -/
def filterData : Decoder FilterData
  | .obj ms => .valid (.members ms)
  | v =>
    match textOrNumber v with
    | .valid s => .valid (.text s)
    | .invalid _ => .invalid
      [⟨.notText, [.key "str"]⟩, ⟨.notRecord, [.key "dict[str,any]"]⟩]

/-- A member that is a text, with a default. -/
def word (ms : Members) (name default : String) : Checked String :=
  optional ms name name textOrNumber default

def wordOrNull (ms : Members) (name : String) : Checked (Option String) :=
  optional ms name name (nullable textOrNumber) none

def report (shape : WrongShape) : Decoder Report := object (shape "LegacyReport") fun ms =>
  Report.mk
    <$> required ms "id_filter" "id_filter" textOrNumber
    <*> required ms "report_type_id" "report_type_id" textOrNumber
    <*> word ms "author" "0"
    <*> word ms "creation_date" ""
    <*> word ms "filter_name" ""
    <*> optional ms "filter_data" "filter_data" filterData (.text "\x7b\x7d")
    <*> word ms "is_public" "0"
    <*> word ms "views" "0"
    <*> word ms "is_standard" "0"
    <*> wordOrNull ms "id_job"
    <*> wordOrNull ms "last_edit_by"
    <*> wordOrNull ms "last_edit"
    <*> word ms "visibility_type" "private"

/-- A sharing rule. -/
def rule (shape : WrongShape) : Decoder VisibilityRule := object (shape "VisibilityRule") fun ms =>
  VisibilityRule.mk
    <$> required ms "id_report" "id_report" textOrNumber
    <*> required ms "member_type" "member_type" textOrNumber
    <*> required ms "member_id" "member_id" textOrNumber
    <*> word ms "select_state" "1"

/-- A batch; it has at least one report. -/
def importRequest (shape : WrongShape) : Decoder ImportRequest :=
  object (shape "LegacyImportRequest") fun ms =>
    ImportRequest.mk
      <$> required ms "reports" "reports" (fun v =>
        ((list (report shape)) v).ensure (!·.isEmpty) "At least one legacy report is required")
      <*> optional ms "visibilityRules" "visibility_rules" (list (rule shape)) []
      <*> optional ms "platform" "platform" text ""

end Decode

namespace Encode

def filterData : FilterData → Json
  | .text s => .str s
  | .members ms => .obj ms

def report (r : Report) : Json := .obj [
  ("id_filter", .str r.idFilter), ("report_type_id", .str r.typeId), ("author", .str r.author),
  ("creation_date", .str r.creationDate), ("filter_name", .str r.name),
  ("filter_data", filterData r.data), ("is_public", .str r.isPublic), ("views", .str r.views),
  ("is_standard", .str r.isStandard), ("id_job", .ofOption .str r.idJob),
  ("last_edit_by", .ofOption .str r.lastEditBy), ("last_edit", .ofOption .str r.lastEdit),
  ("visibility_type", .str r.visibility)]

def importResult (r : ImportResult) : Json := .obj [
  ("parsed", .ofList LearningReports.Encode.definition r.parsed),
  ("notParsed", .ofList report r.notParsed)]

end Encode
end LearningReports.Legacy
