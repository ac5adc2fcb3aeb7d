/-! # Expressions of a query

Expressions are written once for all query engines; `Dialect.render` chooses the wording. Lists of
arguments and of case arms are chains inside the one type, so every function on expressions is a
plain structural recursion. -/
namespace LearningReports.Sql

/-- Functions that turn the values of a group of rows into one. -/
inductive Aggregate where
  | anyValue
  | max
  | sum
  | count
  | countDistinct
  | joinDistinct (separator : String)
  deriving Repr, DecidableEq

/-- Infix operators. -/
inductive Operator where
  | eq
  | ne
  | differs
  | lt
  | le
  | gt
  | ge
  | and
  | or
  | times
  | over
  | modulo
  | like
  | escape
  | among
  | notAmong
  deriving Repr, DecidableEq

/-- Functions of one argument that each engine words in its own way. -/
inductive Function where
  | localTime (zone : String)
  | day
  | field (key : String)
  | quotedField (key : String)
  | readTime
  | readDay
  | daysUntil
  deriving Repr, DecidableEq

/-- Points in time that each engine words in its own way. -/
inductive Moment where
  | now
  | today
  | daysFromToday (days : Int)
  | at (time : String)
  deriving Repr, DecidableEq

inductive Expr where
  /-- Given text, taken as it is. -/
  | raw (text : String)
  | word (text : String)
  | int (n : Int)
  /-- Numbers with commas and without blanks. -/
  | ids (ns : List Int)
  /-- A quoted text; quotes inside are doubled. -/
  | str (text : String)
  /-- A text between quotes, taken as it is. -/
  | verbatim (text : String)
  /-- A name between double quotes; double quotes inside are doubled. -/
  | label (text : String)
  /-- A column of a table that the query names. -/
  | col (table column : String)
  /-- A column without its table. -/
  | name (column : String)
  | pair (first rest : Expr)
  | call (function : String) (arguments : Expr)
  | aggregate (function : Aggregate) (argument : Expr)
  | cast (e : Expr) (type : String)
  | tryCast (e : Expr) (type : String)
  | op (o : Operator) (left right : Expr)
  | isNull (e : Expr)
  | notNull (e : Expr)
  | not (e : Expr)
  | paren (e : Expr)
  /-- A case distinction; its arms are a chain of `arm` that ends in `otherwise` or `noMore`. -/
  | choice (arms : Expr)
  | arm (condition value rest : Expr)
  | otherwise (value : Expr)
  | noMore
  /-- One of two values. -/
  | choose (condition yes no : Expr)
  | apply (function : Function) (argument : Expr)
  | moment (m : Moment)
  /-- Membership in the rows of a table that keep a condition, or its negation. -/
  | inSelect (negated : Bool) (e item : Expr) (table : String) (condition : Expr)
  deriving Repr, DecidableEq

namespace Expr

/-- No value. -/
def null : Expr := .word "NULL"

/-- The condition that always holds. -/
def always : Expr := .word "TRUE"

/-- The condition that never holds. -/
def never : Expr := .word "FALSE"

/-- The empty text. -/
def empty : Expr := .str ""

def eq (a b : Expr) : Expr := .op .eq a b

def ne (a b : Expr) : Expr := .op .ne a b

def lt (a b : Expr) : Expr := .op .lt a b

def le (a b : Expr) : Expr := .op .le a b

def gt (a b : Expr) : Expr := .op .gt a b

def ge (a b : Expr) : Expr := .op .ge a b

def and (a b : Expr) : Expr := .op .and a b

def or (a b : Expr) : Expr := .op .or a b

/-- A chain of arguments. -/
def list : Expr → List Expr → Expr
  | a, [] => a
  | a, b :: rest => .pair a (list b rest)

/-- Several conditions joined by one operator, from the left. -/
def joined (o : Operator) : Expr → List Expr → Expr
  | a, [] => a
  | a, b :: rest => joined o (.op o a b) rest

/-- A call with two arguments. -/
def call2 (function : String) (a b : Expr) : Expr := .call function (.pair a b)

/-- A call with three arguments. -/
def call3 (function : String) (a b c : Expr) : Expr := .call function (.pair a (.pair b c))

/-- Several texts made one. -/
def concat2 (a b : Expr) : Expr := .call2 "CONCAT" a b

/-- Three texts made one. -/
def concat3 (a b c : Expr) : Expr := .call3 "CONCAT" a b c

/-- The text from the second character on. -/
def dropFirst (e : Expr) : Expr := .call2 "SUBSTR" e (.int 2)

/-- A value as text. -/
def asText (e : Expr) : Expr := .cast e "varchar"

/-- The chain of arms of a case distinction. -/
def arms : List (Expr × Expr) → Expr → Expr
  | [], last => last
  | (condition, value) :: rest, last => .arm condition value (arms rest last)

/-- The first value whose condition holds, or the last value. -/
def caseOf (cases : List (Expr × Expr)) (last : Expr) : Expr :=
  .choice (arms cases (.otherwise last))

/-- The value under a condition, or no value. -/
def whenever (condition value : Expr) : Expr := .choice (.arm condition value .noMore)

/-- The value is one of several. -/
def oneOf (e first : Expr) (rest : List Expr) : Expr := .op .among e (.paren (list first rest))

/-- The distinct values of a group in order, with commas. -/
def joinDistinct (e : Expr) : Expr := .aggregate (.joinDistinct ", ") e

/-- The wording of the expression depends on the engine already at its top. -/
def needsEngine : Expr → Bool
  | .col _ _ | .name _ | .choose _ _ _ | .apply _ _ | .moment _ => true
  | .aggregate .anyValue _ | .aggregate (.joinDistinct _) _ => true
  | _ => false

end Expr
end LearningReports.Sql
