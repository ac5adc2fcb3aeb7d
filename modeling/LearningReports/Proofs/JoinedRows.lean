import LearningReports.Proofs.Rows

/-! # Rows from joined sources

The first sources of a branch decide what the first rows of a combination are. An engine that reads
conditions as it should gives from an inner query just the rows that keep its conditions, so that
further conditions take away the rows that do not keep them. -/
namespace LearningReports.Sql

namespace Branch

/-- The branch with more sources in front of its own. -/
def behind (b : Branch) (ss : List Source) : Branch := { b with sources := ss ++ b.sources }

theorem add_behind (b : Branch) (ss : List Source) (f : Fragment) :
    (b.behind ss).add f = (b.add f).behind ss := by
  have hjoin (key : String) : (b.behind ss).hasJoin key = b.hasJoin key := rfl
  cases f with
  | source s => simp [behind, add]
  | join key more =>
    simp only [add, hjoin]
    split
    · rfl
    · simp [behind]
  | restrict r =>
    simp only [add]
    split <;> rfl
  | define name body =>
    simp only [add]
    change (if (lookup? name b.definitions).isSome then _ else _) = _
    split <;> rfl
  | _ => rfl

theorem addAll_behind (b : Branch) (ss : List Source) (fs : List Fragment) :
    (b.behind ss).addAll fs = (b.addAll fs).behind ss := by
  induction fs generalizing b with
  | nil => rfl
  | cons f fs ih => rw [addAll_cons, add_behind, ih, addAll_cons]

end Branch

namespace Reading

variable {R : Reading} {scope next last : Scope R.Row} {s : Source} {ss : List Source}
  {r : Relation} {handle : String} {on : Expr}

theorem Extends.exists_append (h : R.Extends scope s next) : ∃ more, next = scope ++ more := by
  cases h <;> exact ⟨_, rfl⟩

theorem Combines.exists_append (h : R.Combines scope ss last) : ∃ more, last = scope ++ more := by
  induction h with
  | @nil scope => exact ⟨[], (List.append_nil scope).symm⟩
  | cons hs _ ih =>
    obtain ⟨more, rfl⟩ := hs.exists_append
    obtain ⟨rest, rfl⟩ := ih
    exact ⟨more ++ rest, List.append_assoc ..⟩

theorem combines_cons_iff :
    R.Combines scope (s :: ss) last ↔ ∃ next, R.Extends scope s next ∧ R.Combines next ss last := by
  constructor
  · rintro (_ | ⟨hs, hss⟩)
    exact ⟨_, hs, hss⟩
  · rintro ⟨_, hs, hss⟩
    exact .cons hs hss

theorem extends_first_iff : R.Extends scope (.first r handle) next ↔
    ∃ row, R.Gives r row ∧ next = scope ++ [(handle, some row)] := by
  constructor
  · rintro (_ | hr)
    exact ⟨_, hr, rfl⟩
  · rintro ⟨_, hr, rfl⟩
    exact .first hr

theorem extends_joined_iff : R.Extends scope (.join .inner r handle on) next ↔
    ∃ row, R.Gives r row ∧ R.holds (scope ++ [(handle, some row)]) on ∧
      next = scope ++ [(handle, some row)] := by
  constructor
  · rintro (_ | _ | ⟨hr, hon⟩)
    exact ⟨_, hr, hon, rfl⟩
  · rintro ⟨_, hr, hon, rfl⟩
    exact .partner hr hon

variable {row : R.Row}

variable (R) in
/-- An engine reads several conditions on a row as it should: each in parentheses, and the whole,
they hold as they are joined, and an inner query gives all rows of its table that keep its
conditions. -/
structure Logical : Prop where
  all {name : String} {row : R.Row} {e : Expr} {es : List Expr} :
    R.holds [(name, some row)] (.paren (.joined .and (.paren e) (es.map .paren))) ↔
      ∀ a ∈ e :: es, R.holds [(name, some row)] a
  any {name : String} {row : R.Row} {e : Expr} {es : List Expr} :
    R.holds [(name, some row)] (.paren (.joined .or (.paren e) (es.map .paren))) ↔
      ∃ a ∈ e :: es, R.holds [(name, some row)] a
  rows {table : String} {conditions : List Expr} {row : R.Row} (hrow : R.inTable table row)
    (hall : ∀ e ∈ conditions, R.holds [(table, some row)] e) :
    R.answers (.rows table conditions) row

theorem Logical.answers_append_iff (h : R.Logical) {table : String} {es fs : List Expr} :
    R.answers (.rows table (es ++ fs)) row ↔
      R.answers (.rows table es) row ∧ ∀ e ∈ fs, R.holds [(table, some row)] e := by
  constructor
  · intro hanswers
    obtain ⟨htable, hall⟩ := R.answers_rows hanswers
    rw [List.forall_mem_append] at hall
    exact ⟨h.rows htable hall.1, hall.2⟩
  · rintro ⟨hanswers, hmore⟩
    obtain ⟨htable, hall⟩ := R.answers_rows hanswers
    exact h.rows htable (List.forall_mem_append.mpr ⟨hall, hmore⟩)

end Reading
end LearningReports.Sql
