import LearningReports.Report.BranchChoice
import LearningReports.Report.Layout

/-! # Whole queries

A query unites its branches, orders the rows and limits their number. -/
namespace LearningReports

open Sql (Expr)

structure Query where
  definitions : List (String × Sql.Body)
  branches : List Sql.Branch
  order : Option (Expr × SortDirection)
  limit : Int
  deriving Repr, DecidableEq

/-- The word of a direction. -/
def SortDirection.keyword : SortDirection → String
  | .ascending => "ASC"
  | .descending => "DESC"

namespace Sql.Dialect

/-- The text of an order with a blank before it. -/
def renderOrder (d : Dialect) : Option (Expr × SortDirection) → String
  | some (e, direction) => " ORDER BY " ++ d.render e ++ " " ++ direction.keyword
  | none => ""

/-- The text of a query. -/
def renderQuery (d : Dialect) (q : Query) : String :=
  d.renderDefinitions q.definitions
    ++ " UNION ".intercalate (q.branches.map d.renderBranch)
    ++ d.renderOrder q.order
    ++ " LIMIT " ++ toString q.limit

end Sql.Dialect

namespace Query

def choice (ctx : Context) : BranchChoice :=
  if ctx.hasArchive then .ofDefinition ctx.definition ctx.session else .liveOnly

def branchesOf (ctx : Context) : List Sql.Branch :=
  when (choice ctx).live [Layout.live ctx] ++ when (choice ctx).archive [Layout.archive ctx]

/-- Named queries with those of another branch; a name that is there stays as it is. -/
def merge (done more : List (String × Sql.Body)) : List (String × Sql.Body) :=
  more.foldl (fun done (name, body) =>
    if (lookup? name done).isSome then done else done ++ [(name, body)]) done

/-- The named queries of the branches. -/
def definitionsOf (ctx : Context) : List (String × Sql.Body) :=
  (branchesOf ctx).foldl (fun done b => merge done b.definitions) []

def hasColumn (ctx : Context) (key : String) : Bool :=
  (Layout.columns ctx).any (·.1 == key)

/-- What the rows are sorted by: the chosen column, the usual one of the type, or the first. -/
def sortKey (ctx : Context) : Expr :=
  let sorting := ctx.definition.sorting
  let usual := ctx.type.defaultSort.id
  if sorting.selector = .custom && hasColumn ctx sorting.field then
    Layout.aliasOf ctx sorting.field
  else if hasColumn ctx usual then Layout.aliasOf ctx usual
  else .int 1

/-- The query of a report. A preview is not sorted. -/
def ofContext (ctx : Context) (limit : Int) (use : ExportUse) : Query :=
  { definitions := definitionsOf ctx
    branches := branchesOf ctx
    order := if use.isPreview then none else some (sortKey ctx, ctx.definition.sorting.direction)
    limit := ctx.session.platform.rowLimit limit use }

end Query
end LearningReports
