import LearningReports.Proofs.Admission
import Mathlib

/-! # Filters as sets of ids

A filter stands for the set of the ids that it admits, and that is everything when it restricts
nothing. However filters are made, those of one set are one value, so that intersecting them obeys
the laws of sets; and the clause of a filter for a column tells the filter. -/
namespace LearningReports.IdFilter

/-- The listed ids stand in increasing order, each once. -/
def IsCanonical : IdFilter → Prop
  | .unrestricted => True
  | .only ids => ids.Pairwise (· < ·)

/-! ## Canonical filters -/

theorem isCanonical_ofList (ids : List Int) : (ofList ids).IsCanonical := pairwise_sortedIds ids

theorem IsCanonical.intersect {f g : IdFilter} (hf : f.IsCanonical) (hg : g.IsCanonical) :
    (f.intersect g).IsCanonical := by
  cases f with
  | unrestricted => simpa using hg
  | only as =>
    cases g with
    | unrestricted => simpa using hf
    | only bs => exact isCanonical_ofList _

theorem exists_not_admits (ids : List Int) : ∃ id, ¬(only ids).admits id := by
  obtain ⟨id, hid⟩ := Infinite.exists_notMem_finset ids.toFinset
  exact ⟨id, fun h => hid (List.mem_toFinset.mpr h)⟩

/-- Filters of one set are one value. -/
theorem IsCanonical.ext {f g : IdFilter} (hf : f.IsCanonical) (hg : g.IsCanonical)
    (h : ∀ id, f.admits id ↔ g.admits id) : f = g := by
  cases f with
  | unrestricted =>
    cases g with
    | unrestricted => rfl
    | only bs =>
      obtain ⟨id, hid⟩ := exists_not_admits bs
      exact absurd ((h id).mp trivial) hid
  | only as =>
    cases g with
    | unrestricted =>
      obtain ⟨id, hid⟩ := exists_not_admits as
      exact absurd ((h id).mpr trivial) hid
    | only bs => exact congrArg only (List.Pairwise.eq_of_mem_iff hf hg h)

/-! ## Filters that are made -/

/-- A way to make a filter. -/
inductive Recipe where
  | ofList (ids : List Int)
  | nothing
  | unrestricted
  | intersect (a b : Recipe)

namespace Recipe

def filter : Recipe → IdFilter
  | ofList ids => .ofList ids
  | nothing => .nothing
  | unrestricted => .unrestricted
  | intersect a b => a.filter.intersect b.filter

/-- The set of ids that the recipe describes. -/
def set : Recipe → Set Int
  | ofList ids => { id | id ∈ ids }
  | nothing => ∅
  | unrestricted => Set.univ
  | intersect a b => a.set ∩ b.set

theorem isCanonical_filter (a : Recipe) : a.filter.IsCanonical := by
  induction a with
  | ofList ids => exact isCanonical_ofList ids
  | nothing => exact List.Pairwise.nil
  | unrestricted => trivial
  | intersect a b iha ihb => exact iha.intersect ihb

theorem admits_filter (a : Recipe) (id : Int) : a.filter.admits id ↔ id ∈ a.set := by
  induction a with
  | ofList ids => simp [filter, set]
  | nothing => simp [filter, set, IdFilter.nothing, admits]
  | unrestricted => simp [filter, set]
  | intersect a b iha ihb => simp [filter, set, iha, ihb]

/-- Recipes make one filter exactly when they describe one set. -/
theorem filter_eq_iff {a b : Recipe} : a.filter = b.filter ↔ a.set = b.set := by
  constructor
  · intro h
    ext id
    rw [← admits_filter, ← admits_filter, h]
  · intro h
    apply a.isCanonical_filter.ext b.isCanonical_filter
    intro id
    rw [admits_filter, admits_filter, h]

/-- Filters under intersection are sets under intersection. -/
structure IsSetAlgebra (a b c : Recipe) : Prop where
  admits : ∀ id, (a.filter.intersect b.filter).admits id ↔ a.filter.admits id ∧ b.filter.admits id
  comm : a.filter.intersect b.filter = b.filter.intersect a.filter
  assoc : (a.filter.intersect b.filter).intersect c.filter =
    a.filter.intersect (b.filter.intersect c.filter)
  self : a.filter.intersect a.filter = a.filter
  unit : a.filter.intersect .unrestricted = a.filter
  zero : a.filter.intersect .nothing = .nothing

theorem isSetAlgebra (a b c : Recipe) : IsSetAlgebra a b c where
  admits id := admits_intersect
  comm := by
    have hset : (intersect a b).set = (intersect b a).set := Set.inter_comm ..
    exact filter_eq_iff.mpr hset
  assoc := by
    have hset : (intersect (intersect a b) c).set = (intersect a (intersect b c)).set :=
      Set.inter_assoc ..
    exact filter_eq_iff.mpr hset
  self := by
    have hset : (intersect a a).set = a.set := Set.inter_self _
    exact filter_eq_iff.mpr hset
  unit := intersect_unrestricted _
  zero := by
    have hset : (intersect a nothing).set = nothing.set := Set.inter_empty _
    exact filter_eq_iff.mpr hset

end Recipe

/-! ## Clauses -/

/-- The integers of a list with commas. -/
def readIds (s : String) : Option (List Int) :=
  ((s.split ',').toList.map (·.copy)).mapM String.toInt?

/-- The filter whose clause a text is: of other clauses than those of no ids and of all, what stands
between the last round brackets is read. -/
def readClause (s : String) : Option IdFilter :=
  if s = "" then some .unrestricted
  else if s = " AND FALSE" then some .nothing
  else
    match s.toList.reverse with
    | ')' :: cs => (readIds (String.ofList (cs.takeWhile (· != '(')).reverse)).map only
    | _ => none

theorem isDigit_or_eq_of_mem_toString {n : Int} {c : Char} (h : c ∈ (toString n).toList) :
    c.isDigit = true ∨ c = '-' := by
  have hdigit {k : Nat} (hc : c ∈ k.repr.toList) : c.isDigit = true := by
    rw [Nat.toList_repr] at hc
    exact Nat.isDigit_of_mem_toDigits (by decide) (by decide) hc
  cases n with
  | ofNat k => exact .inl (hdigit h)
  | negSucc k =>
    change c ∈ ("-" ++ k.succ.repr).toList at h
    rw [String.toList_append, List.mem_append] at h
    exact h.symm.imp hdigit List.mem_singleton.mp

theorem bracket_not_mem_text (ids : List Int) : '(' ∉ (only ids).text.toList := by
  have hnumber (n : Int) : '(' ∉ (toString n).toList := by
    intro h
    have hc := isDigit_or_eq_of_mem_toString h
    revert hc
    decide
  change '(' ∉ (",".intercalate (ids.map toString)).toList
  induction ids with
  | nil => simp
  | cons n ns ih =>
    cases ns with
    | nil => simpa using hnumber n
    | cons m ms =>
      rw [List.map_cons, List.map_cons, String.intercalate_cons_cons, ← List.map_cons,
        String.toList_append, String.toList_append, List.mem_append, List.mem_append]
      intro h
      rcases h with (h | h) | h
      · exact hnumber n h
      · revert h
        decide
      · exact ih h

theorem readIds_text {ids : List Int} (h : ids ≠ []) : readIds (only ids).text = some ids := by
  have hcomma : ∀ s ∈ ids.map toString, ',' ∉ s.toList := by
    intro s hs hmem
    obtain ⟨n, -, rfl⟩ := List.mem_map.mp hs
    have hc := isDigit_or_eq_of_mem_toString hmem
    revert hc
    decide
  have hparts := String.toList_split_intercalate hcomma
  rw [if_neg (by simpa using h)] at hparts
  have hread : (String.toInt? ∘ toString : Int → Option Int) = fun n => pure n :=
    funext Int.toInt?_repr
  have htext : (only ids).text = (String.singleton ',').intercalate (ids.map toString) := rfl
  rw [readIds, htext, hparts, List.mapM_map, hread, List.mapM_pure, List.map_id']
  rfl

theorem clause_only {ids : List Int} (h : ids ≠ []) (column : String) :
    (only ids).clause column = " AND " ++ column ++ " IN (" ++ (only ids).text ++ ")" := by
  cases ids with
  | nil => exact absurd rfl h
  | cons n ns =>
    apply String.toList_injective
    simp [clause, conditions, text, Sql.Dialect.render, Sql.Operator.text]

/-- The clause of a filter for a column, whichever it is, is read as the filter. -/
theorem readClause_clause (f : IdFilter) (column : String) :
    readClause (f.clause column) = some f := by
  cases f with
  | unrestricted => rfl
  | only ids =>
    by_cases hids : ids = []
    · subst hids
      rfl
    · have hend : ((only ids).clause column).toList.reverse = ')' ::
          ((only ids).text.toList.reverse ++
            '(' :: (" AND " ++ column ++ " IN ").toList.reverse) := by
        rw [clause_only hids]
        simp
      have hne (s : String) (hs : s.toList.reverse.head? ≠ some ')') :
          (only ids).clause column ≠ s := by
        intro heq
        apply hs
        rw [← heq, hend]
        rfl
      have hlist : ((only ids).text.toList.reverse ++
          '(' :: (" AND " ++ column ++ " IN ").toList.reverse).takeWhile (· != '(') =
            (only ids).text.toList.reverse := by
        rw [List.takeWhile_append_of_pos]
        · simp
        · intro c hc
          rw [bne_iff_ne]
          intro heq
          subst heq
          exact bracket_not_mem_text ids (List.mem_reverse.mp hc)
      rw [readClause, if_neg (hne "" (by simp)), if_neg (hne " AND FALSE" (by decide)), hend]
      change Option.map only (readIds (String.ofList (List.takeWhile _ _).reverse)) = _
      rw [hlist, List.reverse_reverse, String.ofList_toList, readIds_text hids]
      rfl

/-- The clause of a filter for a column: empty when the filter restricts nothing, false when it
admits nothing, and else a list of the admitted ids. No other filter has it, for any column. -/
structure IsToldByClause (f : IdFilter) (column : String) : Prop where
  empty_iff : f.clause column = "" ↔ f = .unrestricted
  never_iff : f.clause column = " AND FALSE" ↔ ∀ id, ¬f.admits id
  listed : f ≠ .unrestricted → (∃ id, f.admits id) →
    f.clause column = " AND " ++ column ++ " IN (" ++ f.text ++ ")" ∧
      ∃ ids, readIds f.text = some ids ∧ ids.Pairwise (· < ·) ∧ ∀ id, id ∈ ids ↔ f.admits id
  alone : ∀ g column', g.clause column' = f.clause column → g = f

theorem eq_of_clause_eq {f g : IdFilter} {column column' : String}
    (h : g.clause column' = f.clause column) : g = f := by
  have hread := readClause_clause g column'
  rw [h, readClause_clause] at hread
  exact (Option.some.inj hread).symm

theorem IsCanonical.isToldByClause {f : IdFilter} (hf : f.IsCanonical) (column : String) :
    f.IsToldByClause column where
  empty_iff := by
    constructor
    · intro h
      have hsame : f.clause column = unrestricted.clause column := h
      exact eq_of_clause_eq hsame
    · intro h
      rw [h]
      rfl
  never_iff := by
    constructor
    · intro h id
      have hsame : f.clause column = nothing.clause column := h
      rw [eq_of_clause_eq hsame]
      exact List.not_mem_nil
    · intro h
      have hnothing : f = .nothing :=
        hf.ext List.Pairwise.nil fun id => iff_of_false (h id) List.not_mem_nil
      rw [hnothing]
      rfl
  listed := by
    intro hrestricts hsome
    cases f with
    | unrestricted => exact absurd rfl hrestricts
    | only ids =>
      have hids : ids ≠ [] := by
        intro hnil
        obtain ⟨id, hid⟩ := hsome
        rw [hnil] at hid
        exact List.not_mem_nil hid
      exact ⟨clause_only hids column, ids, readIds_text hids, hf, fun id => Iff.rfl⟩
  alone g column' h := eq_of_clause_eq h

/-- Whatever filters are made of lists, nothing and everything by intersection: their ids stand in
order, they are one value exactly when they are one set, intersection is that of sets, and the
clause for a column tells the filter. -/
theorem filters_are_sets (a b c : Recipe) (column : String) :
    a.filter.IsCanonical ∧ (∀ id, a.filter.admits id ↔ id ∈ a.set) ∧
      (a.filter = b.filter ↔ a.set = b.set) ∧ Recipe.IsSetAlgebra a b c ∧
      a.filter.IsToldByClause column :=
  ⟨a.isCanonical_filter, a.admits_filter, Recipe.filter_eq_iff, Recipe.isSetAlgebra a b c,
    a.isCanonical_filter.isToldByClause column⟩

/-- Repeated and negative ids, and a list of which two ids are wanted. -/
example : (Recipe.intersect (.ofList [3, -2, 3, 1]) (.ofList [1, -2, 7])).filter.clause "x.id" =
    " AND x.id IN (-2,1)" := by decide

end LearningReports.IdFilter
