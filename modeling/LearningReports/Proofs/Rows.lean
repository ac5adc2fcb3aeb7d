import LearningReports.Proofs.Fragments
import LearningReports.Warehouse.Table

/-! # Rows of a branch

What the rows of a branch keep, whatever an engine makes of its tables and conditions. A condition
of a branch stands after its WHERE, or inside an inner query that the branch joins. -/
namespace LearningReports.Sql

/-- The rows under the short names of a query's sources; a left join may find none. -/
abbrev Scope (Row : Type) := List (String × Option Row)

/-- What an engine makes of tables, inner queries and conditions. -/
structure Reading where
  Row : Type
  inTable : String → Row → Prop
  answers : Subselect → Row → Prop
  holds : Scope Row → Expr → Prop
  not_never (scope : Scope Row) : ¬holds scope .never
  /-- A query for all columns gives rows of its table that keep all of its conditions. -/
  answers_rows {table : String} {conditions : List Expr} {row : Row} :
    answers (.rows table conditions) row →
      inTable table row ∧ ∀ e ∈ conditions, holds [(table, some row)] e

namespace Reading

variable (R : Reading)

def Gives : Relation → R.Row → Prop
  | .table name, row => R.inTable name row
  | .inner q, row => R.answers q row

/-- One more source extends a combination of rows. -/
inductive Extends : Scope R.Row → Source → Scope R.Row → Prop
  | raw {scope more : Scope R.Row} {text : String} : Extends scope (.raw text) (scope ++ more)
  | first {scope : Scope R.Row} {r : Relation} {handle : String} {row : R.Row}
      (hr : R.Gives r row) : Extends scope (.first r handle) (scope ++ [(handle, some row)])
  | partner {scope : Scope R.Row} {k : JoinKind} {r : Relation} {handle : String} {on : Expr}
      {row : R.Row} (hr : R.Gives r row) (hon : R.holds (scope ++ [(handle, some row)]) on) :
      Extends scope (.join k r handle on) (scope ++ [(handle, some row)])
  | alone {scope : Scope R.Row} {r : Relation} {handle : String} {on : Expr}
      (hno : ∀ row, R.Gives r row → ¬R.holds (scope ++ [(handle, some row)]) on) :
      Extends scope (.join .left r handle on) (scope ++ [(handle, none)])

/-- A combination of rows from sources, one source after the other. -/
inductive Combines : Scope R.Row → List Source → Scope R.Row → Prop
  | nil {scope : Scope R.Row} : Combines scope [] scope
  | cons {scope next last : Scope R.Row} {s : Source} {ss : List Source}
      (hs : R.Extends scope s next) (hss : Combines next ss last) : Combines scope (s :: ss) last

/-- A row of a branch before it is grouped: a combination of rows that keeps the restrictions. -/
structure RowOf (b : Branch) (scope : Scope R.Row) : Prop where
  combines : R.Combines [] b.sources scope
  keeps : ∀ e, .and e ∈ b.restrictions → R.holds scope e

end Reading

/-- Where a condition stands: in the branch itself, or in the rows of a table under its short
name. -/
inductive Place where
  | branch
  | rows (t : Table)
  deriving Repr, DecidableEq

/-- The source gives the rows of a table that keep some conditions, and none besides. -/
inductive Source.Restricts (t : Table) (conditions : List Expr) : Source → Prop
  | first : Restricts t conditions (.first (.inner (.rows t.name conditions)) t.handle)
  | join {on : Expr} :
      Restricts t conditions (.join .inner (.inner (.rows t.name conditions)) t.handle on)

def Branch.Keeps (b : Branch) : Place → Expr → Prop
  | .branch, e => .and e ∈ b.restrictions
  | .rows t, e => ∃ s ∈ b.sources, ∃ conditions, s.Restricts t conditions ∧ e ∈ conditions

/-- The condition holds of a row at a place. -/
def Reading.HoldsAt (R : Reading) (scope : Scope R.Row) : Place → Expr → Prop
  | .branch, e => R.holds scope e
  | .rows t, e => ∃ row, (t.handle, some row) ∈ scope ∧ R.inTable t.name row ∧
      R.holds [(t.name, some row)] e

namespace Reading

variable {R : Reading}

theorem Extends.subset {scope next : Scope R.Row} {s : Source} (h : R.Extends scope s next) :
    scope ⊆ next := by
  cases h <;> exact List.subset_append_left ..

theorem Combines.subset {scope last : Scope R.Row} {ss : List Source}
    (h : R.Combines scope ss last) : scope ⊆ last := by
  induction h with
  | nil => exact List.Subset.refl _
  | cons hs _ ih => exact List.Subset.trans hs.subset ih

theorem Combines.extends {scope last : Scope R.Row} {ss : List Source} {s : Source}
    (h : R.Combines scope ss last) (hs : s ∈ ss) :
    ∃ before after, R.Extends before s after ∧ after ⊆ last := by
  induction h with
  | nil => exact absurd hs List.not_mem_nil
  | cons hnow hrest ih =>
    rcases List.mem_cons.mp hs with rfl | hs
    · exact ⟨_, _, hnow, hrest.subset⟩
    · exact ih hs

theorem Extends.restricted {scope next : Scope R.Row} {t : Table} {conditions : List Expr}
    {s : Source} (h : R.Extends scope s next) (hs : s.Restricts t conditions) :
    ∃ row, (t.handle, some row) ∈ next ∧ R.inTable t.name row ∧
      ∀ e ∈ conditions, R.holds [(t.name, some row)] e := by
  cases hs with
  | first =>
    cases h with
    | first hr => exact ⟨_, List.mem_append_right _ (List.mem_singleton.mpr rfl),
        R.answers_rows hr⟩
  | join =>
    cases h with
    | partner hr _ => exact ⟨_, List.mem_append_right _ (List.mem_singleton.mpr rfl),
        R.answers_rows hr⟩

/-- A condition that a branch has holds of all its rows. -/
theorem RowOf.holdsAt {b : Branch} {scope : Scope R.Row} {p : Place} {e : Expr}
    (h : R.RowOf b scope) (he : b.Keeps p e) : R.HoldsAt scope p e := by
  cases p with
  | branch => exact h.keeps e he
  | rows t =>
    obtain ⟨s, hs, conditions, hrestricts, hmem⟩ := he
    obtain ⟨before, after, hextends, hlast⟩ := h.combines.extends hs
    obtain ⟨row, hrow, htable, hall⟩ := hextends.restricted hrestricts
    exact ⟨row, hlast hrow, htable, hall e hmem⟩

/-- A branch with the false condition at some place has no rows. -/
theorem not_rowOf_of_never {b : Branch} {p : Place} (h : b.Keeps p .never)
    (scope : Scope R.Row) : ¬R.RowOf b scope := by
  intro hrow
  have hholds := hrow.holdsAt h
  cases p with
  | branch => exact R.not_never scope hholds
  | rows t =>
    obtain ⟨row, -, -, hnever⟩ := hholds
    exact R.not_never _ hnever

end Reading
end LearningReports.Sql
