import LearningReports.Report.Gather
import LearningReports.Report.Query

/-! # Compiling reports

A report is compiled for an engine: its context is gathered, its query is made and worded. -/
namespace LearningReports

/-- How a report is compiled. -/
structure CompileOptions where
  limit : Int := 0
  use : ExportUse := {}
  checkVisibility : Bool := true
  deriving Repr, DecidableEq

/-- A compiled report. -/
structure Compiled where
  sql : String
  /-- The labels of the columns. -/
  columns : List Json
  unmapped : List String
  dropped : List String
  deriving Repr

namespace Report

/-- The engine can run reports of the type. -/
def checkEngine (t : ReportType) (engine : Sql.Dialect) : Outcome Unit :=
  if engine ∈ t.engines then .ok () else .error .unsupported

/-- The compiled report of a context. -/
def compiled (ctx : Context) (engine : Sql.Dialect) (o : CompileOptions) : Compiled :=
  { sql := engine.renderQuery (Query.ofContext ctx o.limit o.use)
    columns := Layout.labels ctx
    unmapped := Layout.unmapped ctx
    dropped := Layout.dropped ctx }

/-- Compiles a report for an engine. -/
def compile {m : Type → Type} [Monad m] [MonadExceptOf Failure m] (dir : Directory m)
    (w : Warehouse) (d : Definition) (s : Session) (engine : Sql.Dialect) (o : CompileOptions) :
    m Compiled := do
  (checkEngine d.type engine).lift
  let ctx ← Gather.context dir w d s o.checkVisibility
  return compiled ctx engine o

end Report
end LearningReports
