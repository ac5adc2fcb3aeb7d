import LearningReports.Proofs.Occurs
import LearningReports.Proofs.Rows
import LearningReports.Selection.IdFilter

/-! # Conditions in the text of a branch

A condition that a branch has at some place stands in its text, behind an AND. -/
namespace LearningReports

open Sql Text

namespace Sql.Dialect

theorem occurs_renderSource {d : Dialect} {b : Branch} {s : Source} (h : s ∈ b.sources) :
    Occurs (d.renderSource s) (d.renderBranch b) := by
  have hfrom : Occurs (d.renderSource s) (" ".intercalate (b.sources.map d.renderSource)) :=
    .intercalate (List.mem_map_of_mem h) (.refl _)
  exact .append_right _ (.append_right _ (.append_right _ (.append_left _ hfrom)))

theorem occurs_renderRows {d : Dialect} {table : String} {conditions : List Expr} {e : Expr}
    (h : e ∈ conditions) :
    Occurs (" AND " ++ d.render e) (d.renderSubselect (.rows table conditions)) := by
  have hand : Occurs (" AND " ++ d.render e)
      (" AND ".intercalate ((Expr.always :: conditions).map d.render)) :=
    .separated (List.mem_map_of_mem h)
  exact .append_right _ (.append_right _ (.append_left _ (.append_left _ hand)))

theorem occurs_restricts {d : Dialect} {t : Table} {conditions : List Expr} {e : Expr}
    {s : Source} (hs : s.Restricts t conditions) (h : e ∈ conditions) :
    Occurs (" AND " ++ d.render e) (d.renderSource s) := by
  have hrows : Occurs (" AND " ++ d.render e)
      (d.renderRelation (.inner (.rows t.name conditions))) :=
    .append_right _ (.append_left _ (occurs_renderRows h))
  cases hs with
  | first => exact .append_right _ (.append_right _ hrows)
  | join =>
    exact .append_right _ (.append_right _ (.append_right _ (.append_right _
      (.append_left _ hrows))))

theorem trim_renderRestriction {d : Dialect} {e : Expr} (he : EndsSolid (d.render e)) :
    " " ++ trim (d.renderRestriction (.and e)) = " AND " ++ d.render e := by
  have hletters : ("AND " ++ d.render e).toList = 'A' :: ("ND ".toList ++ (d.render e).toList) := by
    rw [String.toList_append]
    rfl
  change " " ++ trim ("AND " ++ d.render e) = _
  rw [trim_eq_self hletters (by decide) (he.append_left _), ← String.append_assoc]
  rfl

theorem occurs_restriction {d : Dialect} {b : Branch} {e : Expr}
    (h : .and e ∈ b.restrictions) (he : EndsSolid (d.render e)) :
    Occurs (" AND " ++ d.render e) (d.renderBranch b) := by
  have hwhere : Occurs (" AND " ++ d.render e)
      ("".intercalate (b.restrictions.map fun r => " " ++ trim (d.renderRestriction r))) := by
    rw [← trim_renderRestriction he]
    exact .intercalate (List.mem_map_of_mem h) (.refl _)
  exact .append_right _ (.append_left _ hwhere)

/-- A condition that a branch has stands in its text. -/
theorem occurs_of_keeps {d : Dialect} {b : Branch} {p : Place} {e : Expr} (h : b.Keeps p e)
    (he : EndsSolid (d.render e)) : Occurs (" AND " ++ d.render e) (d.renderBranch b) := by
  cases p with
  | branch => exact occurs_restriction h he
  | rows t =>
    obtain ⟨s, hs, conditions, hrestricts, hmem⟩ := h
    exact .trans (occurs_restricts hrestricts hmem) (occurs_renderSource hs)

theorem endsSolid_never (d : Dialect) : EndsSolid (d.render .never) :=
  ⟨['F', 'A', 'L', 'S'], 'E', by change "FALSE".toList = _; decide, by decide⟩

theorem endsSolid_parenthesis (s : String) : EndsSolid (s ++ ")") :=
  .append_left s ⟨[], ')', by decide, by decide⟩

theorem endsSolid_inSelect (d : Dialect) (e item condition : Expr) (negated : Bool)
    (table : String) : EndsSolid (d.render (.inSelect negated e item table condition)) :=
  endsSolid_parenthesis _

end Sql.Dialect

namespace IdFilter

theorem endsSolid_of_mem_conditions {f : IdFilter} {d : Dialect} {column e : Expr}
    (h : e ∈ f.conditions column) : EndsSolid (d.render e) := by
  match f, h with
  | .only [], h =>
    cases List.mem_singleton.mp h
    exact d.endsSolid_never
  | .only (n :: ns), h =>
    cases List.mem_singleton.mp h
    exact .append_left _ (Dialect.endsSolid_parenthesis _)

/-- The clause of a filter in text is that of its conditions, whatever the engine. -/
theorem clause_eq (f : IdFilter) (d : Dialect) (column : Expr) :
    f.clause (d.render column) =
      "".intercalate ((f.conditions column).map fun e => " AND " ++ d.render e) := by
  match f with
  | .unrestricted => rfl
  | .only [] => rfl
  | .only (n :: ns) => rfl

theorem occurs_clause {f : IdFilter} {d : Dialect} {b : Branch} {p : Place} {column : Expr}
    (h : ∀ e ∈ f.conditions column, b.Keeps p e) :
    Occurs (f.clause (d.render column)) (d.renderBranch b) := by
  have hone : ∀ e ∈ f.conditions column, Occurs (" AND " ++ d.render e) (d.renderBranch b) :=
    fun e he => Dialect.occurs_of_keeps (h e he) (endsSolid_of_mem_conditions he)
  rw [clause_eq]
  match f, hone with
  | .unrestricted, _ => exact .empty _
  | .only [], hone =>
    simpa [conditions] using hone .never (List.mem_singleton.mpr rfl)
  | .only (n :: ns), hone =>
    simpa [conditions] using hone _ (List.mem_singleton.mpr rfl)

end IdFilter
end LearningReports
