import LearningReports.Proofs.BranchText
import LearningReports.Proofs.Outlines
import LearningReports.Report.Query

/-! # Outlines of queries

Inner queries, sources, branches and whole queries have outlines as expressions have, and closed
ones are worded like their outlines. Fragments make a branch by their keys, names and grouping,
which outlines keep. -/
namespace LearningReports

open Text

namespace Sql

/-- The text of the expression cannot end in a blank. Only what conditions end in is told. -/
def Expr.endsSolid : Expr → Bool
  | .word text => text == "FALSE"
  | .int _ | .str _ | .paren _ | .isNull _ | .notNull _ | .inSelect _ _ _ _ _ => true
  | .op _ _ right => right.endsSolid
  | _ => false

def Item.isFixed (i : Item) : Bool := i.expr.isFixed && i.handle.all Expr.isFixed

def TableJoin.isFixed (j : TableJoin) : Bool :=
  isPlain j.table && isPlain j.handle && j.condition.isFixed

section

variable (p : String → Bool)

/-- The expression is closed and can stand at the end of a text that is trimmed. -/
def Expr.isCondition (e : Expr) : Bool := e.isClosed p && e.endsSolid

def Subselect.isClosed (q : Subselect) : Bool :=
  q.items.all Item.isFixed && isPlain q.table && q.handle.all isPlain
    && q.joins.all TableJoin.isFixed && q.conditions.all (Expr.isClosed p)
    && q.groupBy.all Expr.isFixed && q.having.all (Expr.isClosed p)

def Relation.isClosed : Relation → Bool
  | .table name => isPlain name
  | .inner q => q.isClosed p

def Source.isClosed : Source → Bool
  | .raw _ => false
  | .first r handle => r.isClosed p && isPlain handle
  | .join _ r handle condition => r.isClosed p && isPlain handle && condition.isClosed p

def Body.isClosed : Body → Bool
  | .raw _ => false
  | .union qs => qs.all (Subselect.isClosed p)

def Restriction.isClosed : Restriction → Bool
  | .raw _ => false
  | .and e => e.isCondition p

/-- Grouping keys are told apart, so they may not hold anything that outlines leave out. -/
def Fragment.isClosed : Fragment → Bool
  | .select e handle => e.isClosed p && handle.isFixed
  | .source s => s.isClosed p
  | .join _ ss => ss.all (Source.isClosed p)
  | .groupBy keys => keys.all Expr.isFixed
  | .restrict r => r.isClosed p
  | .define name body => isPlain name && body.isClosed p

structure Branch.Closed (b : Branch) : Prop where
  select : ∀ s ∈ b.select, s.1.isClosed p = true ∧ s.2.isFixed = true
  sources : ∀ s ∈ b.sources, s.isClosed p = true
  groupBy : ∀ e ∈ b.groupBy, e.isFixed = true
  restrictions : ∀ r ∈ b.restrictions, r.isClosed p = true
  definitions : ∀ q ∈ b.definitions, isPlain q.1 = true ∧ q.2.isClosed p = true

end

def Subselect.outline (q : Subselect) : Subselect :=
  { q with conditions := q.conditions.map Expr.outline, having := q.having.map Expr.outline }

def Relation.outline : Relation → Relation
  | .table name => .table name
  | .inner q => .inner q.outline

def Source.outline : Source → Source
  | .raw text => .raw text
  | .first r handle => .first r.outline handle
  | .join k r handle condition => .join k r.outline handle condition.outline

def Body.outline : Body → Body
  | .raw text => .raw text
  | .union qs => .union (qs.map Subselect.outline)

def Restriction.outline : Restriction → Restriction
  | .raw text => .raw text
  | .and e => .and e.outline

def Fragment.outline : Fragment → Fragment
  | .select e handle => .select e.outline handle
  | .source s => .source s.outline
  | .join key ss => .join key (ss.map Source.outline)
  | .groupBy keys => .groupBy keys
  | .restrict r => .restrict r.outline
  | .define name body => .define name body.outline

def Branch.outline (b : Branch) : Branch :=
  { b with
    select := b.select.map fun s => (s.1.outline, s.2)
    sources := b.sources.map Source.outline
    restrictions := b.restrictions.map Restriction.outline
    definitions := b.definitions.map fun q => (q.1, q.2.outline) }

theorem Expr.endsSolid_outline {e : Expr} (h : e.endsSolid = true) :
    e.outline.endsSolid = true := by
  induction e with
  | op o a b _ ih => exact ih h
  | word | int | str | paren | isNull | notNull | inSelect => exact h
  | _ => cases h

/-! ## From fragments to branches -/

theorem lookup?_map {α β : Type} (f : α → β) (key : String) (kvs : List (String × α)) :
    lookup? key (kvs.map fun kv => (kv.1, f kv.2)) = (lookup? key kvs).map f := by
  induction kvs with
  | nil => rfl
  | cons kv kvs ih =>
    simp only [List.map_cons, lookup?]
    split
    · rfl
    · exact ih

namespace Branch

theorem outline_add (b : Branch) (f : Fragment) :
    (b.add f).outline = b.outline.add f.outline := by
  cases f with
  | select e handle => simp [add, outline, Fragment.outline]
  | source s => simp [add, outline, Fragment.outline]
  | join key ss =>
    simp only [add, Fragment.outline]
    change outline (if b.hasJoin key then _ else _) = if b.hasJoin key then _ else _
    split
    · rfl
    · simp [outline]
  | groupBy keys => rfl
  | restrict r =>
    have hvoid : r.outline.isVoid = r.isVoid := by
      cases r <;> rfl
    simp only [add, Fragment.outline, hvoid]
    split
    · rfl
    · simp [outline]
  | define name body =>
    have hlookup : (lookup? name b.outline.definitions).isSome =
        (lookup? name b.definitions).isSome := by
      rw [outline, lookup?_map, Option.isSome_map]
    simp only [add, Fragment.outline, hlookup]
    split
    · rfl
    · simp [outline]

theorem outline_addAll (b : Branch) (fs : List Fragment) :
    (b.addAll fs).outline = b.outline.addAll (fs.map Fragment.outline) := by
  induction fs generalizing b with
  | nil => rfl
  | cons f fs ih => rw [addAll_cons, ih, outline_add, List.map_cons, addAll_cons]

theorem outline_ofFragments (fs : List Fragment) :
    (ofFragments fs).outline = ofFragments (fs.map Fragment.outline) :=
  outline_addAll empty fs

variable {p : String → Bool}

theorem closed_empty : Closed p empty := ⟨nofun, nofun, nofun, nofun, nofun⟩

theorem mem_addKey {keys : List Expr} {key e : Expr} :
    e ∈ addKey keys key ↔ e ∈ keys ∨ e = key := by
  unfold addKey
  split
  · next hmem => exact ⟨.inl, fun h => h.elim id fun heq => heq ▸ hmem⟩
  · rw [List.mem_append, List.mem_singleton]

theorem mem_foldl_addKey {keys done : List Expr} {e : Expr} :
    e ∈ keys.foldl addKey done ↔ e ∈ done ∨ e ∈ keys := by
  induction keys generalizing done with
  | nil => simp
  | cons key keys ih => rw [List.foldl_cons, ih, mem_addKey, List.mem_cons, or_assoc]

theorem mem_append_singleton_elim {α : Type} {P : α → Prop} {as : List α} {b : α}
    (has : ∀ a ∈ as, P a) (hb : P b) : ∀ a ∈ as ++ [b], P a := by
  intro a ha
  rcases List.mem_append.mp ha with ha | ha
  · exact has a ha
  · exact List.mem_singleton.mp ha ▸ hb

theorem closed_add {b : Branch} {f : Fragment} (hb : b.Closed p) (hf : f.isClosed p = true) :
    (b.add f).Closed p := by
  cases f with
  | select e handle =>
    exact { hb with select := mem_append_singleton_elim hb.select ((Bool.and_eq_true _ _).mp hf) }
  | source s => exact { hb with sources := mem_append_singleton_elim hb.sources hf }
  | join key ss =>
    simp only [add]
    split
    · exact hb
    · refine { hb with sources := fun s hs => ?_ }
      rcases List.mem_append.mp hs with hs | hs
      · exact hb.sources s hs
      · exact List.all_eq_true.mp hf s hs
  | groupBy keys =>
    refine { hb with groupBy := fun e he => ?_ }
    rcases mem_foldl_addKey.mp he with he | he
    · exact hb.groupBy e he
    · exact List.all_eq_true.mp hf e he
  | restrict r =>
    simp only [add]
    split
    · exact hb
    · exact { hb with restrictions := mem_append_singleton_elim hb.restrictions hf }
  | define name body =>
    simp only [add]
    split
    · exact hb
    · exact { hb with
        definitions := mem_append_singleton_elim hb.definitions ((Bool.and_eq_true _ _).mp hf) }

theorem closed_addAll {b : Branch} {fs : List Fragment} (hb : b.Closed p)
    (hfs : fs.all (Fragment.isClosed p) = true) : (b.addAll fs).Closed p := by
  induction fs generalizing b with
  | nil => exact hb
  | cons f fs ih =>
    rw [List.all_cons, Bool.and_eq_true] at hfs
    exact ih (closed_add hb hfs.1) hfs.2

theorem closed_ofFragments {fs : List Fragment} (h : fs.all (Fragment.isClosed p) = true) :
    (ofFragments fs).Closed p :=
  closed_addAll closed_empty h

end Branch

/-! ## Wordings -/

namespace Dialect

variable (d : Dialect)

theorem endsSolid_quote (s : String) : EndsSolid (quote '\'' s) :=
  ⟨'\'' :: doubled '\'' s.toList, '\'', by simp [quote], by decide⟩

theorem endsSolid_render {e : Expr} (h : e.endsSolid = true) : EndsSolid (d.render e) := by
  induction e with
  | word text =>
    cases beq_iff_eq.mp h
    exact d.endsSolid_never
  | int n => exact endsSolid_number n
  | str text => exact endsSolid_quote text
  | paren e => exact endsSolid_parenthesis _
  | isNull e => exact .append_left _ ⟨" IS NUL".toList, 'L', by decide, by decide⟩
  | notNull e => exact .append_left _ ⟨" IS NOT NUL".toList, 'L', by decide, by decide⟩
  | inSelect => exact endsSolid_parenthesis _
  | op o a b _ ih => exact .append_left _ (ih h)
  | _ => cases h

-- its equation is made here, before the proofs below need it
attribute [local simp] renderSubselect

theorem alike_clause {α : Type} {f g : α → String} {word separator : String} (as : List α)
    (hword : closes none word.toList = true) (hseparator : closes none separator.toList = true)
    (h : ∀ a ∈ as, Alike (f a) (g a)) :
    Alike (clause word separator (as.map f)) (clause word separator (as.map g)) := by
  cases as with
  | nil => exact .empty
  | cons a as => exact .closed_append hword (.intercalate (alike_closed hseparator) _ h)

theorem alike_fixed {e : Expr} (h : e.isFixed = true) : Alike (d.render e) (d.render e) := by
  have hrender := d.alike_render (Expr.isClosed_of_isFixed isPaired h)
  rwa [Expr.outline_of_isFixed h] at hrender

theorem alike_item {i : Item} (h : i.isFixed = true) : Alike (d.renderItem i) (d.renderItem i) := by
  obtain ⟨hexpr, hhandle⟩ := (Bool.and_eq_true _ _).mp h
  unfold renderItem
  cases hi : i.handle with
  | none => exact d.alike_fixed hexpr
  | some handle =>
    rw [hi] at hhandle
    exact ((d.alike_fixed hexpr).append_closed (by cbv)).append (d.alike_fixed hhandle)

theorem alike_joinKind (k : JoinKind) : Alike k.text k.text := by
  cases k with
  | _ => exact alike_closed (by cbv)

theorem alike_tableJoin {j : TableJoin} (h : j.isFixed = true) :
    Alike (d.renderTableJoin j) (d.renderTableJoin j) := by
  obtain ⟨hnames, hcondition⟩ := (Bool.and_eq_true _ _).mp h
  obtain ⟨htable, hhandle⟩ := (Bool.and_eq_true _ _).mp hnames
  exact ((((((Alike.closed_append (by cbv) (alike_joinKind j.kind)).append_closed (by cbv)).append
    (alike_of_isPlain htable)).append_closed (by cbv)).append
    (alike_of_isPlain hhandle)).append_closed (by cbv)).append (d.alike_fixed hcondition)

theorem alike_subselect {q : Subselect} (h : q.isClosed isPaired = true) :
    Alike (d.renderSubselect q) (d.renderSubselect q.outline) := by
  simp only [Subselect.isClosed, Bool.and_eq_true, List.all_eq_true] at h
  obtain ⟨⟨⟨⟨⟨⟨hitems, htable⟩, hhandle⟩, hjoins⟩, hconditions⟩, hgroupBy⟩, hhaving⟩ := h
  have hfrom : Alike (", ".intercalate (q.items.map d.renderItem))
      (", ".intercalate (q.items.map d.renderItem)) :=
    .intercalate (alike_closed (by cbv)) _ fun i hi => d.alike_item (hitems i hi)
  have hjoined : Alike ("".intercalate (q.joins.map d.renderTableJoin))
      ("".intercalate (q.joins.map d.renderTableJoin)) :=
    .intercalate (alike_closed (by cbv)) _ fun j hj => d.alike_tableJoin (hjoins j hj)
  have hwhere : Alike (clause " WHERE " " AND " (q.conditions.map d.render))
      (clause " WHERE " " AND " (q.conditions.map fun e => d.render e.outline)) :=
    alike_clause _ (by cbv) (by cbv) fun e he => d.alike_render (hconditions e he)
  have hgroup : Alike (clause " GROUP BY " ", " (q.groupBy.map d.render))
      (clause " GROUP BY " ", " (q.groupBy.map d.render)) :=
    alike_clause _ (by cbv) (by cbv) fun e he => d.alike_fixed (hgroupBy e he)
  have hkept : Alike (clause " HAVING " " AND " (q.having.map d.render))
      (clause " HAVING " " AND " (q.having.map fun e => d.render e.outline)) :=
    alike_clause _ (by cbv) (by cbv) fun e he => d.alike_render (hhaving e he)
  simp only [renderSubselect, Subselect.outline, List.map_map]
  refine (((((((Alike.closed_append (by cbv) hfrom).append_closed (by cbv)).append
    (alike_of_isPlain htable)).append ?_).append hjoined).append hwhere).append hgroup).append
    hkept
  cases hq : q.handle with
  | none => exact .empty
  | some handle =>
    rw [hq] at hhandle
    exact .closed_append (by cbv) (alike_of_isPlain hhandle)

theorem alike_relation {r : Relation} (h : r.isClosed isPaired = true) :
    Alike (d.renderRelation r) (d.renderRelation r.outline) := by
  cases r with
  | table name => exact alike_of_isPlain h
  | inner q => exact alike_enclosed (d.alike_subselect h) (by cbv) (by cbv)

theorem alike_source {s : Source} (h : s.isClosed isPaired = true) :
    Alike (d.renderSource s) (d.renderSource s.outline) := by
  cases s with
  | raw => cases h
  | first r handle =>
    obtain ⟨hr, hhandle⟩ := (Bool.and_eq_true _ _).mp h
    exact ((d.alike_relation hr).append_closed (by cbv)).append (alike_of_isPlain hhandle)
  | join k r handle condition =>
    obtain ⟨hnamed, hcondition⟩ := (Bool.and_eq_true _ _).mp h
    obtain ⟨hr, hhandle⟩ := (Bool.and_eq_true _ _).mp hnamed
    exact (((((alike_joinKind k).append_closed (by cbv)).append
      (d.alike_relation hr)).append_closed (by cbv)).append
      (alike_of_isPlain hhandle)).append_closed (by cbv) |>.append (d.alike_render hcondition)

theorem alike_body {b : Body} (h : b.isClosed isPaired = true) :
    Alike (d.renderBody b) (d.renderBody b.outline) := by
  cases b with
  | raw => cases h
  | union qs =>
    simp only [renderBody, Body.outline, List.map_map]
    exact .intercalate (alike_closed (by cbv)) _ fun q hq =>
      d.alike_subselect (List.all_eq_true.mp h q hq)

theorem alike_restriction {r : Restriction} (h : r.isClosed isPaired = true) :
    Alike (" " ++ trim (d.renderRestriction r)) (" " ++ trim (d.renderRestriction r.outline)) := by
  cases r with
  | raw => cases h
  | and e =>
    obtain ⟨he, hsolid⟩ := (Bool.and_eq_true _ _).mp h
    rw [Restriction.outline, trim_renderRestriction (d.endsSolid_render hsolid),
      trim_renderRestriction (d.endsSolid_render (Expr.endsSolid_outline hsolid))]
    exact .closed_append (by cbv) (d.alike_render he)

theorem alike_clauses {b b' : Branch}
    (hselect : Alike (", ".intercalate (b.select.map d.renderSelected))
      (", ".intercalate (b'.select.map d.renderSelected)))
    (hsources : Alike (" ".intercalate (b.sources.map d.renderSource))
      (" ".intercalate (b'.sources.map d.renderSource)))
    (hrestrictions : Alike
      ("".intercalate (b.restrictions.map fun r => " " ++ trim (d.renderRestriction r)))
      ("".intercalate (b'.restrictions.map fun r => " " ++ trim (d.renderRestriction r))))
    (hgroupBy : Alike (clause " GROUP BY " ", " (b.groupBy.map d.render))
      (clause " GROUP BY " ", " (b'.groupBy.map d.render))) :
    Alike (d.renderBranch b) (d.renderBranch b') :=
  (((Alike.closed_append (by cbv) hselect).append_closed (by cbv)).append
    hsources).append_closed (by cbv) |>.append hrestrictions |>.append hgroupBy

theorem alike_groupBy {b : Branch} (h : b.Closed isPaired) :
    Alike (clause " GROUP BY " ", " (b.groupBy.map d.render))
      (clause " GROUP BY " ", " (b.groupBy.map d.render)) :=
  alike_clause _ (by cbv) (by cbv) fun e he => d.alike_fixed (h.groupBy e he)

theorem alike_branch {b : Branch} (h : b.Closed isPaired) :
    Alike (d.renderBranch b) (d.renderBranch b.outline) := by
  apply alike_clauses
  case hselect =>
    simp only [Branch.outline, List.map_map]
    exact .intercalate (alike_closed (by cbv)) _ fun s hs =>
      ((d.alike_render (h.select s hs).1).append_closed (by cbv)).append
        (d.alike_fixed (h.select s hs).2)
  case hsources =>
    simp only [Branch.outline, List.map_map]
    exact .intercalate (alike_closed (by cbv)) _ fun s hs => d.alike_source (h.sources s hs)
  case hrestrictions =>
    simp only [Branch.outline, List.map_map]
    exact .intercalate (alike_closed (by cbv)) _ fun r hr =>
      d.alike_restriction (h.restrictions r hr)
  case hgroupBy => exact d.alike_groupBy h

/-- Branches that differ only in what they select are worded alike when the skeletons of what they
select are the same. -/
theorem alike_select {b b' : Branch} (hb : b.Closed isPaired) (hb' : b'.Closed isPaired)
    (hsame : b' = { b with select := b'.select })
    (hskeleton : b.select.map (fun s => (s.1.skeleton, s.2.skeleton)) =
      b'.select.map fun s => (s.1.skeleton, s.2.skeleton)) :
    Alike (d.renderBranch b) (d.renderBranch b') := by
  have hselected {b : Branch} (hb : b.Closed isPaired) :
      Alike (", ".intercalate (b.select.map d.renderSelected)) (", ".intercalate
        ((b.select.map fun s => (s.1.skeleton, s.2.skeleton)).map d.renderSelected)) := by
    rw [List.map_map]
    refine .intercalate (alike_closed (by cbv)) _ fun s hs => ?_
    have hlabel := Expr.isClosed_of_isFixed isPaired (hb.select s hs).2
    exact ((d.alike_skeleton (hb.select s hs).1).append_closed (by cbv)).append
      (d.alike_skeleton hlabel)
  apply alike_clauses
  case hselect =>
    have hright := (hselected hb').symm
    rw [← hskeleton] at hright
    exact (hselected hb).trans hright
  case hsources =>
    rw [hsame]
    exact .intercalate (alike_closed (by cbv)) _ fun s hs =>
      (d.alike_source (hb.sources s hs)).trans (d.alike_source (hb.sources s hs)).symm
  case hrestrictions =>
    rw [hsame]
    exact .intercalate (alike_closed (by cbv)) _ fun r hr =>
      (d.alike_restriction (hb.restrictions r hr)).trans
        (d.alike_restriction (hb.restrictions r hr)).symm
  case hgroupBy =>
    rw [hsame]
    exact d.alike_groupBy hb

end Dialect
end Sql

/-! ## Whole queries -/

namespace Query

structure Closed (p : String → Bool) (q : Query) : Prop where
  definitions : ∀ n ∈ q.definitions, isPlain n.1 = true ∧ n.2.isClosed p = true
  branches : ∀ b ∈ q.branches, b.Closed p
  order : ∀ o ∈ q.order, o.1.isFixed = true

def outline (q : Query) : Query :=
  { q with
    definitions := q.definitions.map fun n => (n.1, n.2.outline)
    branches := q.branches.map Sql.Branch.outline }

end Query

namespace Sql.Dialect

variable (d : Dialect)

theorem alike_definitions {qs : List (String × Body)}
    (h : ∀ n ∈ qs, isPlain n.1 = true ∧ n.2.isClosed isPaired = true) :
    Alike (d.renderDefinitions qs)
      (d.renderDefinitions (qs.map fun n => (n.1, n.2.outline))) := by
  have hlist : Alike (", ".intercalate (qs.map d.renderDefinition))
      (", ".intercalate (qs.map fun n => d.renderDefinition (n.1, n.2.outline))) :=
    .intercalate (alike_closed (by cbv)) _ fun n hn =>
      (((alike_of_isPlain (h n hn).1).append_closed (by cbv)).append
        (d.alike_body (h n hn).2)).append_closed (by cbv)
  cases qs with
  | nil => exact .empty
  | cons n qs =>
    simp only [renderDefinitions, List.map_map]
    exact alike_enclosed hlist (by cbv) (by cbv)

theorem alike_order {o o' : Option (Expr × SortDirection)} (ho : ∀ k ∈ o, k.1.isFixed = true)
    (ho' : ∀ k ∈ o', k.1.isFixed = true)
    (h : o.map (fun k => (k.1.skeleton, k.2)) = o'.map fun k => (k.1.skeleton, k.2)) :
    Alike (d.renderOrder o) (d.renderOrder o') := by
  match o, o', h with
  | none, none, _ => exact .empty
  | some (e, direction), some (e', direction'), h =>
    obtain ⟨hskeleton, rfl⟩ := Prod.mk.inj (Option.some.inj h)
    have hkey : Alike (d.render e) (d.render e') :=
      d.alike_of_skeleton (Expr.isClosed_of_isFixed _ (ho _ rfl))
        (Expr.isClosed_of_isFixed _ (ho' _ rfl)) hskeleton
    have hdirection : Alike direction.keyword direction.keyword := by
      cases direction with
      | _ => exact alike_closed (by cbv)
    exact ((Alike.closed_append (by cbv) hkey).append_closed (by cbv)).append hdirection

theorem alike_parts {q q' : Query}
    (hdefinitions : Alike (d.renderDefinitions q.definitions) (d.renderDefinitions q'.definitions))
    (hbranches : Alike (" UNION ".intercalate (q.branches.map d.renderBranch))
      (" UNION ".intercalate (q'.branches.map d.renderBranch)))
    (horder : Alike (d.renderOrder q.order) (d.renderOrder q'.order)) (hlimit : q.limit = q'.limit) :
    Alike (d.renderQuery q) (d.renderQuery q') := by
  unfold renderQuery
  rw [hlimit]
  exact (((hdefinitions.append hbranches).append horder).append_closed (by cbv)).append
    (alike_of_isPlain (isPlain_number _))

/-- A closed query whose texts have their quotes in pairs is worded like its outline. -/
theorem alike_query {q : Query} (h : q.Closed isPaired) :
    Alike (d.renderQuery q) (d.renderQuery q.outline) := by
  refine d.alike_parts (d.alike_definitions h.definitions) ?_ ?_ rfl
  · simp only [Query.outline, List.map_map]
    exact .intercalate (alike_closed (by cbv)) _ fun b hb => d.alike_branch (h.branches b hb)
  · exact d.alike_order h.order h.order rfl

/-- Closed queries with one outline are cut into the same tokens but for what stands between
quotes, and each is one statement. -/
theorem sameStructure_of_outline {q q' : Query} (hq : q.Closed isPaired)
    (hq' : q'.Closed isPaired) (h : q.outline = q'.outline) :
    SameStructure (d.renderQuery q) (d.renderQuery q') ∧
      OneStatement (d.renderQuery q) ∧ OneStatement (d.renderQuery q') := by
  have hboth : Alike (d.renderQuery q) (d.renderQuery q') := by
    refine (d.alike_query hq).trans ?_
    rw [h]
    exact (d.alike_query hq').symm
  exact ⟨hboth.sameStructure, hboth.oneStatement, hboth.symm.oneStatement⟩

end Sql.Dialect
end LearningReports
