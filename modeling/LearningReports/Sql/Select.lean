import LearningReports.Sql.Dialect

/-! # Inner queries and sources

What a query reads from: tables, and inner queries over tables. An inner query is a scope of its
own. -/
namespace LearningReports.Sql

/-- A column of a result. -/
structure Item where
  expr : Expr
  handle : Option Expr := none
  deriving Repr, DecidableEq

inductive JoinKind where
  | inner
  | left
  deriving Repr, DecidableEq

def JoinKind.text : JoinKind → String
  | .inner => "JOIN"
  | .left => "LEFT JOIN"

structure TableJoin where
  kind : JoinKind
  table : String
  handle : String
  condition : Expr
  deriving Repr, DecidableEq

/-- A query over tables. Its conditions all have to hold. -/
structure Subselect where
  items : List Item
  table : String
  handle : Option String := none
  joins : List TableJoin := []
  conditions : List Expr := []
  groupBy : List Expr := []
  having : List Expr := []
  deriving Repr, DecidableEq

def Subselect.rows (table : String) (conditions : List Expr) : Subselect :=
  { items := [⟨.word "*", none⟩], table := table, conditions := .always :: conditions }

/-- What a source gives its rows from. -/
inductive Relation where
  | table (name : String)
  | inner (query : Subselect)
  deriving Repr, DecidableEq

/-- One item of a FROM clause. -/
inductive Source where
  /-- Given text, taken as it is. -/
  | raw (text : String)
  | first (relation : Relation) (handle : String)
  | join (kind : JoinKind) (relation : Relation) (handle : String) (condition : Expr)
  deriving Repr, DecidableEq

/-- The body of a named query. -/
inductive Body where
  /-- Given text, taken as it is. -/
  | raw (text : String)
  | union (queries : List Subselect)
  deriving Repr, DecidableEq

/-- A table joined so that rows without a partner stay. -/
def Source.leftJoin (table handle : String) (condition : Expr) : Source :=
  .join .left (.table table) handle condition

/-- A table joined so that only rows with a partner stay. -/
def Source.joinTable (table handle : String) (condition : Expr) : Source :=
  .join .inner (.table table) handle condition

/-- An inner query joined so that only rows with a partner stay. -/
def Source.joinRows (query : Subselect) (handle : String) (condition : Expr) : Source :=
  .join .inner (.inner query) handle condition

namespace Dialect

/-- Texts after a word, or nothing when there are none. -/
def clause (word separator : String) (texts : List String) : String :=
  if texts.isEmpty then "" else word ++ separator.intercalate texts

/-- The text of a result column. -/
def renderItem (d : Dialect) (i : Item) : String :=
  match i.handle with
  | some a => d.render i.expr ++ " AS " ++ d.render a
  | none => d.render i.expr

def renderTableJoin (d : Dialect) (j : TableJoin) : String :=
  " " ++ j.kind.text ++ " " ++ j.table ++ " AS " ++ j.handle ++ " ON " ++ d.render j.condition

/-- The text of an inner query. -/
def renderSubselect (d : Dialect) (q : Subselect) : String :=
  "SELECT " ++ ", ".intercalate (q.items.map d.renderItem) ++ " FROM " ++ q.table
    ++ (match q.handle with
      | some a => " AS " ++ a
      | none => "")
    ++ "".intercalate (q.joins.map d.renderTableJoin)
    ++ clause " WHERE " " AND " (q.conditions.map d.render)
    ++ clause " GROUP BY " ", " (q.groupBy.map d.render)
    ++ clause " HAVING " " AND " (q.having.map d.render)

/-- The text of a relation. -/
def renderRelation (d : Dialect) : Relation → String
  | .table name => name
  | .inner q => "(" ++ d.renderSubselect q ++ ")"

def renderSource (d : Dialect) : Source → String
  | .raw text => text
  | .first r a => d.renderRelation r ++ " AS " ++ a
  | .join k r a condition =>
    k.text ++ " " ++ d.renderRelation r ++ " AS " ++ a ++ " ON " ++ d.render condition

/-- The text of a named query's body. -/
def renderBody (d : Dialect) : Body → String
  | .raw text => text
  | .union qs => " UNION ".intercalate (qs.map d.renderSubselect)

end Dialect
end LearningReports.Sql
