import LearningReports.Sql.Expr

/-! # What conditions say of a row

A row gives its columns values. Comparisons, their combinations and case distinctions then have
their usual meaning: a comparison with nothing is neither true nor false, and a row is kept only by
conditions that are true. What an expression of another kind is worth is left to the row. -/
namespace LearningReports.Sql

/-- What an expression is worth in a row. Nothing also stands for a truth value that is not known.
-/
inductive Value where
  | nothing
  | truth (b : Bool)
  | int (n : Int)
  | text (s : String)
  /-- A point in time, in seconds. -/
  | time (seconds : Int)
  /-- Several values: the first and the others. -/
  | several (first others : Value)
  deriving Repr, DecidableEq

/-- What a comparison of two values says; operators of other kinds say nothing of them. -/
def Operator.compare {α : Type} [DecidableEq α] [LT α] [DecidableLT α] (o : Operator) (a b : α) :
    Bool :=
  match o with
  | .eq => a = b
  | .ne | .differs => a ≠ b
  | .lt => a < b
  | .le => ¬b < a
  | .gt => b < a
  | .ge => ¬a < b
  | _ => false

namespace Value

def day (n : Int) : Value := .time (n * 86400)

protected def and : Value → Value → Value
  | .truth false, _ => .truth false
  | _, .truth false => .truth false
  | .truth true, .truth true => .truth true
  | _, _ => .nothing

protected def or : Value → Value → Value
  | .truth true, _ => .truth true
  | _, .truth true => .truth true
  | .truth false, .truth false => .truth false
  | _, _ => .nothing

protected def not : Value → Value
  | .truth b => .truth !b
  | _ => .nothing

/-- Only values of one kind can be compared. -/
def compare (o : Operator) : Value → Value → Value
  | .int a, .int b => .truth (o.compare a b)
  | .text a, .text b => .truth (o.compare a b)
  | .time a, .time b => .truth (o.compare a b)
  | _, _ => .nothing

def among (x : Value) : Value → Value
  | .several first others => (compare .eq x first).or (x.among others)
  | y => compare .eq x y

theorem and_eq_true_iff {a b : Value} :
    a.and b = .truth true ↔ a = .truth true ∧ b = .truth true := by
  unfold Value.and
  split <;> simp_all

theorem or_eq_true_iff {a b : Value} :
    a.or b = .truth true ↔ a = .truth true ∨ b = .truth true := by
  unfold Value.or
  split <;> simp_all

end Value

/-- A row together with the day on which it is read. -/
structure Valuation where
  /-- The present day, counted from some first one. -/
  today : Int
  given : Expr → Value

namespace Valuation

def value (v : Valuation) : Expr → Value
  | .int n => .int n
  | .str s => .text s
  | .moment .today => .day v.today
  | .moment (.daysFromToday n) => .day (v.today + n)
  | .pair a b => .several (v.value a) (v.value b)
  | .paren e => v.value e
  | .not e => (v.value e).not
  | .op .and a b => (v.value a).and (v.value b)
  | .op .or a b => (v.value a).or (v.value b)
  | .op .among a b => (v.value a).among (v.value b)
  | .op .notAmong a b => ((v.value a).among (v.value b)).not
  | .op .eq a b => .compare .eq (v.value a) (v.value b)
  | .op .ne a b => .compare .ne (v.value a) (v.value b)
  | .op .differs a b => .compare .differs (v.value a) (v.value b)
  | .op .lt a b => .compare .lt (v.value a) (v.value b)
  | .op .le a b => .compare .le (v.value a) (v.value b)
  | .op .gt a b => .compare .gt (v.value a) (v.value b)
  | .op .ge a b => .compare .ge (v.value a) (v.value b)
  | .isNull e => .truth (v.value e = .nothing)
  | .notNull e => .truth (v.value e ≠ .nothing)
  | .choice arms => v.value arms
  | .arm condition x rest => if v.value condition = .truth true then v.value x else v.value rest
  | .otherwise x => v.value x
  | .noMore => .nothing
  | e => v.given e

/-- The row is kept by a condition. -/
def Keeps (v : Valuation) (e : Expr) : Prop := v.value e = .truth true

def KeepsAll (v : Valuation) (es : List Expr) : Prop := ∀ e ∈ es, v.Keeps e

instance (v : Valuation) (e : Expr) : Decidable (v.Keeps e) :=
  inferInstanceAs (Decidable (v.value e = .truth true))

instance (v : Valuation) (es : List Expr) : Decidable (v.KeepsAll es) :=
  inferInstanceAs (Decidable (∀ e ∈ es, v.Keeps e))

variable {v : Valuation} {a b e : Expr}

theorem keeps_and_iff : v.Keeps (.and a b) ↔ v.Keeps a ∧ v.Keeps b := Value.and_eq_true_iff

theorem keeps_or_iff : v.Keeps (.or a b) ↔ v.Keeps a ∨ v.Keeps b := Value.or_eq_true_iff

theorem keeps_paren_iff : v.Keeps (.paren e) ↔ v.Keeps e := Iff.rfl

theorem keeps_joined_or_iff (es : List Expr) :
    v.Keeps (.joined .or e es) ↔ v.Keeps e ∨ ∃ x ∈ es, v.Keeps x := by
  induction es generalizing e with
  | nil => simp [Expr.joined]
  | cons x es ih =>
    rw [Expr.joined, ih]
    have hor : v.Keeps (.op .or e x) ↔ v.Keeps e ∨ v.Keeps x := keeps_or_iff
    rw [hor]
    simp [or_assoc]

/-- A condition with a truth value is not kept exactly when its negation is. -/
theorem keeps_not_iff {t : Bool} (h : v.value e = .truth t) : v.Keeps (.not e) ↔ ¬v.Keeps e := by
  simp [Keeps, value, Value.not, h]

theorem value_and {s t : Bool} (ha : v.value a = .truth s) (hb : v.value b = .truth t) :
    v.value (.and a b) = .truth (s && t) := by
  cases s <;> cases t <;> simp [Expr.and, value, Value.and, ha, hb]

theorem value_eq_int {n : Int} (h : v.value e = .int n) (k : Int) :
    v.value (.eq e (.int k)) = .truth (decide (n = k)) := by
  simp [Expr.eq, value, Value.compare, Operator.compare, h]

theorem value_eq_text {s : String} (h : v.value e = .text s) (t : String) :
    v.value (.eq e (.str t)) = .truth (decide (s = t)) := by
  simp [Expr.eq, value, Value.compare, Operator.compare, h]

theorem keeps_eq_int_iff {n : Int} (h : v.value e = .int n) (k : Int) :
    v.Keeps (.eq e (.int k)) ↔ n = k := by
  simp [Keeps, value_eq_int h]

theorem among_ints_iff {n k : Int} {ks : List Int} :
    (Value.int n).among (v.value (.list (.int k) (ks.map .int))) = .truth true ↔ n ∈ k :: ks := by
  induction ks generalizing k with
  | nil => simp [Expr.list, value, Value.among, Value.compare, Operator.compare]
  | cons k' ks ih =>
    have hhead : (Value.int n).compare .eq (.int k) = .truth true ↔ n = k := by
      simp [Value.compare, Operator.compare]
    show ((Value.int n).compare .eq (.int k)).or
        ((Value.int n).among (v.value (.list (.int k') (ks.map .int)))) = .truth true ↔ _
    rw [Value.or_eq_true_iff, hhead, ih]
    exact List.mem_cons.symm

theorem keeps_oneOf_iff {n : Int} (h : v.value e = .int n) (k : Int) (ks : List Int) :
    v.Keeps (.oneOf e (.int k) (ks.map .int)) ↔ n ∈ k :: ks := by
  rw [← among_ints_iff (v := v), ← h]
  rfl

theorem value_caseOf_cons (condition x : Expr) (cases : List (Expr × Expr)) (last : Expr) :
    v.value (.caseOf ((condition, x) :: cases) last) =
      if v.Keeps condition then v.value x else v.value (.caseOf cases last) := rfl

theorem value_caseOf_nil (last : Expr) : v.value (.caseOf [] last) = v.value last := rfl

theorem value_compare_day {o : Operator} {m n : Int} :
    Value.compare o (.day m) (.day n) = .truth (o.compare m n) := by
  have heq : m * 86400 = n * 86400 ↔ m = n := by omega
  cases o <;> simp [Value.compare, Value.day, Operator.compare, heq]

theorem keeps_ge_day_iff {m n : Int} (ha : v.value a = .day m) (hb : v.value b = .day n) :
    v.Keeps (.ge a b) ↔ n ≤ m := by
  simp [Keeps, Expr.ge, value, ha, hb, value_compare_day, Operator.compare]

theorem keeps_lt_day_iff {m n : Int} (ha : v.value a = .day m) (hb : v.value b = .day n) :
    v.Keeps (.lt a b) ↔ m < n := by
  simp [Keeps, Expr.lt, value, ha, hb, value_compare_day, Operator.compare]

end Valuation
end LearningReports.Sql
