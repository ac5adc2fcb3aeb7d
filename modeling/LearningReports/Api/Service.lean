import LearningReports.Api.Requests
import LearningReports.Legacy.Import

/-! # The service

What the service does with a checked request. The session of the caller comes first: a request of a
caller whom the directory refuses has no other effect. -/
namespace LearningReports.Api

structure CompileAnswer where
  engine : Sql.Dialect
  sql : String
  columns : List String
  unmapped : List String
  dropped : List String
  deriving Repr, DecidableEq

/-- What the service works with. -/
structure Service (m : Type → Type) where
  directory : Directory m
  warehouse : Warehouse := .complete
  defaultEngine : Sql.Dialect := .athena
  /-- The id and the time of new definitions. -/
  stamp : Stamp
  room : Legacy.Room := {}

namespace Service

def columnTexts (columns : List Json) : Checked (List String) :=
  (Decode.list Decode.text (.arr columns)).at (.key "columns")

def answerOf (engine : Sql.Dialect) (c : Compiled) : Checked CompileAnswer :=
  (columnTexts c.columns).map fun columns =>
    { engine := engine, sql := c.sql, columns := columns, unmapped := c.unmapped
      dropped := c.dropped }

variable {m : Type → Type} [Monad m] [MonadExceptOf Failure m]

/-- Compiles a definition. -/
def compile (s : Service m) (r : CompileRequest) : m CompileAnswer := do
  let session ← s.directory.session
  let engine := r.engine.getD s.defaultEngine
  let compiled ← Report.compile s.directory s.warehouse r.definition session engine r.options
  (answerOf engine compiled).outcome.lift

def newReport (s : Service m) (r : NewReportRequest) : m Definition := do
  let session ← s.directory.session
  (Definition.default r.type session s.stamp
    { title := .str r.title, description := .str r.description }).outcome.lift

def importLegacy (s : Service m) (r : Legacy.ImportRequest) : m Legacy.ImportResult := do
  let session ← s.directory.session
  (Legacy.importMany session s.stamp r s.room).lift

end Service

def SortingRequest.result (r : SortingRequest) : Definition := r.definition.withSorting r.sorting

end LearningReports.Api
