import LearningReports.Failure
import LearningReports.Sql.Expr
import LearningReports.Text.LowerCase
import LearningReports.Text.Quoted

/-! # Dialects

The wording of expressions for each query engine. Integers are written out at any length. -/
namespace LearningReports.Sql

/-- The query engines. -/
inductive Dialect where
  | athena
  | snowflake
  deriving Repr, DecidableEq

/-- The word of an operator. -/
def Operator.text : Operator → String
  | .eq => "="
  | .ne => "<>"
  | .differs => "!="
  | .lt => "<"
  | .le => "<="
  | .gt => ">"
  | .ge => ">="
  | .and => "AND"
  | .or => "OR"
  | .times => "*"
  | .over => "/"
  | .modulo => "%"
  | .like => "LIKE"
  | .escape => "ESCAPE"
  | .among => "IN"
  | .notAmong => "NOT IN"

namespace Dialect

/-- The name of an engine. -/
def name : Dialect → String
  | .athena => "athena"
  | .snowflake => "snowflake"

/-- The engines with their names. -/
def named : List (String × Dialect) := [("athena", .athena), ("snowflake", .snowflake)]

/-- The engine with a given name, or the failure that shows the value given for it. -/
def ofName (v : Json) : Outcome Dialect :=
  match v.text?.bind (lookup? · named) with
  | some d => .ok d
  | none => .error (.notMember v.shown "Dialect")

/-- A column without its table; Snowflake keeps columns as small quoted names. -/
def column (d : Dialect) (c : String) : String :=
  match d with
  | .athena => c
  | .snowflake => "\"" ++ Text.lower c ++ "\""

/-- The wording of an aggregate. -/
def aggregate (d : Dialect) (f : Aggregate) (e : String) : String :=
  match f, d with
  | .anyValue, .athena => "ARBITRARY(" ++ e ++ ")"
  | .anyValue, .snowflake => "ANY_VALUE(" ++ e ++ ")"
  | .max, _ => "MAX(" ++ e ++ ")"
  | .sum, _ => "SUM(" ++ e ++ ")"
  | .count, _ => "COUNT(" ++ e ++ ")"
  | .countDistinct, _ => "COUNT(DISTINCT " ++ e ++ ")"
  | .joinDistinct s, .athena =>
    "ARRAY_JOIN(ARRAY_SORT(ARRAY_AGG(DISTINCT " ++ e ++ ")), '" ++ s ++ "')"
  | .joinDistinct s, .snowflake =>
    "ARRAY_TO_STRING(ARRAY_SORT(ARRAY_AGG(DISTINCT " ++ e ++ ")), '" ++ s ++ "')"

/-- The wording of a function. -/
def function (d : Dialect) (f : Function) (e : String) : String :=
  match f, d with
  | .localTime zone, .athena =>
    "DATE_FORMAT(" ++ e ++ " AT TIME ZONE '" ++ zone ++ "', '%Y-%m-%d %H:%i:%s')"
  | .localTime zone, .snowflake =>
    "TO_CHAR(CONVERT_TIMEZONE('" ++ zone ++ "', " ++ e ++ "), 'YYYY-MM-DD HH24:MI:SS')"
  | .day, .athena => "DATE_FORMAT(" ++ e ++ ", '%Y-%m-%d')"
  | .day, .snowflake => "TO_CHAR(" ++ e ++ ", 'YYYY-MM-DD')"
  | .field key, .athena => "JSON_EXTRACT_SCALAR(" ++ e ++ ", '$." ++ key ++ "')"
  | .field key, .snowflake => "JSON_EXTRACT_PATH_TEXT(" ++ e ++ ", '" ++ key ++ "')"
  | .quotedField key, .athena => "JSON_EXTRACT_SCALAR(" ++ e ++ ", '$[\"" ++ key ++ "\"]')"
  | .quotedField key, .snowflake => "JSON_EXTRACT_PATH_TEXT(" ++ e ++ ", '\"" ++ key ++ "\"')"
  | .readTime, .athena => "DATE_PARSE(" ++ e ++ ", '%Y-%m-%d %H:%i:%s')"
  | .readTime, .snowflake => "TO_TIMESTAMP(" ++ e ++ ", 'YYYY-MM-DD HH24:MI:SS')"
  | .readDay, .athena => "DATE_PARSE(" ++ e ++ ", '%Y-%m-%d')"
  | .readDay, .snowflake => "TO_TIMESTAMP(" ++ e ++ ", 'YYYY-MM-DD')"
  | .daysUntil, .athena => "DATE_DIFF('day', CURRENT_DATE, CAST(" ++ e ++ " AS DATE))"
  | .daysUntil, .snowflake => "DATEDIFF(day, CURRENT_DATE(), " ++ e ++ ")"

/-- The wording of a point in time. A number of days is written whatever its length. -/
def moment (d : Dialect) (m : Moment) : String :=
  match m, d with
  | .now, .athena => "NOW()"
  | .now, .snowflake => "current_timestamp()"
  | .today, .athena => "CURRENT_DATE"
  | .today, .snowflake => "CURRENT_DATE()"
  | .daysFromToday n, .athena => "DATE_ADD('day', " ++ toString n ++ ", CURRENT_DATE)"
  | .daysFromToday n, .snowflake => "DATEADD(day, " ++ toString n ++ ", CURRENT_DATE())"
  | .at time, .athena => "TIMESTAMP '" ++ time ++ "'"
  | .at time, .snowflake => "TO_TIMESTAMP('" ++ time ++ "')"

/-- The text of an expression. -/
def render (d : Dialect) : Expr → String
  | .raw text => text
  | .word text => text
  | .int n => toString n
  | .ids ns => ",".intercalate (ns.map toString)
  | .str text => Text.quote '\'' text
  | .verbatim text => "'" ++ text ++ "'"
  | .label text => Text.quote '"' text
  | .col table c => table ++ "." ++ d.column c
  | .name c => d.column c
  | .pair a b => d.render a ++ ", " ++ d.render b
  | .call f e => f ++ "(" ++ d.render e ++ ")"
  | .aggregate f e => d.aggregate f (d.render e)
  | .cast e type => "CAST(" ++ d.render e ++ " AS " ++ type ++ ")"
  | .tryCast e type => "TRY_CAST(" ++ d.render e ++ " AS " ++ type ++ ")"
  | .op o a b => d.render a ++ " " ++ o.text ++ " " ++ d.render b
  | .isNull e => d.render e ++ " IS NULL"
  | .notNull e => d.render e ++ " IS NOT NULL"
  | .not e => "NOT " ++ d.render e
  | .paren e => "(" ++ d.render e ++ ")"
  | .choice arms => "CASE" ++ d.render arms ++ " END"
  | .arm c v rest => " WHEN " ++ d.render c ++ " THEN " ++ d.render v ++ d.render rest
  | .otherwise v => " ELSE " ++ d.render v
  | .noMore => ""
  | .choose c yes no =>
    (match d with
      | .athena => "IF("
      | .snowflake => "IFF(")
      ++ d.render c ++ ", " ++ d.render yes ++ ", " ++ d.render no ++ ")"
  | .apply f e => d.function f (d.render e)
  | .moment m => d.moment m
  | .inSelect negated e item table condition =>
    d.render e ++ (if negated then " NOT IN (SELECT " else " IN (SELECT ") ++ d.render item
      ++ " FROM " ++ table ++ " WHERE " ++ d.render condition ++ ")"

/-- The text of an expression when no engine may be chosen: only wordings that all share. -/
def renderFor (engine : Option Dialect) (e : Expr) : Outcome String :=
  match engine with
  | some d => .ok (d.render e)
  | none => if e.needsEngine then .error .unsupported else .ok (athena.render e)

end Dialect
end LearningReports.Sql
