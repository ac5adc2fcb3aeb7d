import LearningReports.Json.Value
import LearningReports.Sql.Select
import LearningReports.Text.Blank

/-! # Branches

A branch is one SELECT statement in the making: a sequence of fragments, gathered clause by clause.
Joins have keys and named queries have names; of several requests with one key or name the first
stands. -/
namespace LearningReports.Sql

/-- A condition on the rows of a branch. -/
inductive Restriction where
  /-- Given text with its own leading operator. -/
  | raw (text : String)
  | and (condition : Expr)
  deriving Repr, DecidableEq

/-- One contribution to a branch. -/
inductive Fragment where
  | select (expr handle : Expr)
  | source (s : Source)
  | join (key : String) (sources : List Source)
  | groupBy (keys : List Expr)
  | restrict (r : Restriction)
  | define (name : String) (body : Body)
  deriving Repr, DecidableEq

structure Branch where
  select : List (Expr × Expr) := []
  sources : List Source := []
  joinKeys : List String := []
  groupBy : List Expr := []
  restrictions : List Restriction := []
  definitions : List (String × Body) := []
  deriving Repr, DecidableEq

def Restriction.isVoid : Restriction → Bool
  | .raw text => text.isEmpty
  | .and _ => false

namespace Branch

/-- The branch without any fragment. -/
def empty : Branch := {}

def hasJoin (b : Branch) (key : String) : Bool := b.joinKeys.contains key

/-- Adds a grouping key that is not there yet. -/
def addKey (keys : List Expr) (key : Expr) : List Expr :=
  if key ∈ keys then keys else keys ++ [key]

def add (b : Branch) : Fragment → Branch
  | .select e a => { b with select := b.select ++ [(e, a)] }
  | .source s => { b with sources := b.sources ++ [s] }
  | .join key ss =>
    if b.hasJoin key then b
    else { b with joinKeys := b.joinKeys ++ [key], sources := b.sources ++ ss }
  | .groupBy keys => { b with groupBy := keys.foldl addKey b.groupBy }
  | .restrict r =>
    if r.isVoid then b else { b with restrictions := b.restrictions ++ [r] }
  | .define name body =>
    if (lookup? name b.definitions).isSome then b
    else { b with definitions := b.definitions ++ [(name, body)] }

/-- The branch after the request for a join, and whether the join is new. -/
def ensureJoin (b : Branch) (key : String) (sources : List Source) : Bool × Branch :=
  (!b.hasJoin key, b.add (.join key sources))

/-- The branch with more fragments, in order. -/
def addAll (b : Branch) (fs : List Fragment) : Branch := fs.foldl add b

/-- The branch that a sequence of fragments makes. -/
def ofFragments (fs : List Fragment) : Branch := empty.addAll fs

@[simp] theorem addAll_nil (b : Branch) : b.addAll [] = b := rfl

@[simp] theorem addAll_cons (b : Branch) (f : Fragment) (fs : List Fragment) :
    b.addAll (f :: fs) = (b.add f).addAll fs := rfl

theorem addAll_append (b : Branch) (fs gs : List Fragment) :
    b.addAll (fs ++ gs) = (b.addAll fs).addAll gs := by
  simp [addAll]

end Branch

namespace Dialect

/-- The text of a result column and its label. -/
def renderSelected (d : Dialect) (s : Expr × Expr) : String :=
  d.render s.1 ++ " AS " ++ d.render s.2

/-- The text of a restriction with its leading operator. -/
def renderRestriction (d : Dialect) : Restriction → String
  | .raw text => text
  | .and e => "AND " ++ d.render e

/-- The text of a branch without its named queries. -/
def renderBranch (d : Dialect) (b : Branch) : String :=
  "SELECT " ++ ", ".intercalate (b.select.map d.renderSelected)
    ++ " FROM " ++ " ".intercalate (b.sources.map d.renderSource)
    ++ " WHERE TRUE"
    ++ "".intercalate (b.restrictions.map fun r => " " ++ Text.trim (d.renderRestriction r))
    ++ clause " GROUP BY " ", " (b.groupBy.map d.render)

/-- The text of a named query. -/
def renderDefinition (d : Dialect) (q : String × Body) : String :=
  q.1 ++ " AS (" ++ d.renderBody q.2 ++ ")"

/-- The text of named queries, with a blank at its end, or nothing. -/
def renderDefinitions (d : Dialect) (qs : List (String × Body)) : String :=
  if qs.isEmpty then "" else "WITH " ++ ", ".intercalate (qs.map d.renderDefinition) ++ " "

end Dialect
end LearningReports.Sql
