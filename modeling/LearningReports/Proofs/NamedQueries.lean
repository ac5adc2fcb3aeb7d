import LearningReports.Proofs.ColumnParts
import LearningReports.Proofs.Sides

/-! # Named queries and the branches that join them

A named query is defined in a branch exactly when the branch joins it. Fragments come in groups, one
for the base of a report and one for each column: in each group the definitions and the joins of
named queries go together, and no other join takes the key of a named query. -/
namespace LearningReports

open Sql (Expr Fragment Source Branch Body)

/-- The tables that stand for named queries. -/
def Table.namedQueries : List Table := [.courseSkills, .statedQuestion, .planCompletion]

/-! ## Named entries, the first of a name kept -/

theorem filter_eq_singleton {α β : Type} [DecidableEq β] {f : α → Option β} {as : List α} {a : α}
    {b : β} (h : (as.filterMap f).Nodup) (ha : a ∈ as) (hb : f a = some b) :
    as.filter (f · == some b) = [a] := by
  induction as with
  | nil => cases ha
  | cons a' as ih =>
    have hrest : (as.filterMap f).Nodup := h.sublist ((List.sublist_cons_self a' as).filterMap f)
    rw [List.filter_cons]
    split
    · next heq =>
      have hb' : f a' = some b := beq_iff_eq.mp heq
      have hnew : b ∉ as.filterMap f := by
        rw [List.filterMap_cons_some hb'] at h
        exact (List.nodup_cons.mp h).1
      have hnone : ∀ x ∈ as, f x ≠ some b := fun x hx hxb =>
        hnew (List.mem_filterMap.mpr ⟨x, hx, hxb⟩)
      have hsame : a = a' := (List.mem_cons.mp ha).resolve_right fun hmem => hnone a hmem hb
      rw [hsame, List.filter_eq_nil_iff.mpr fun x hx => by simpa using hnone x hx]
    · next hne =>
      refine ih hrest ((List.mem_cons.mp ha).resolve_left fun heq => hne ?_)
      rw [← heq]
      exact beq_iff_eq.mpr hb

theorem isSome_lookup?_iff {α : Type} {key : String} {pairs : List (String × α)} :
    (lookup? key pairs).isSome = true ↔ key ∈ pairs.map Prod.fst := by
  induction pairs with
  | nil => simp
  | cons p rest ih =>
    by_cases h : p.1 = key
    · simp [lookup?, h]
    · simp [lookup?, h, ih, Ne.symm h]

namespace Query

theorem mem_names_merge {done more : List (String × Body)} {name : String} :
    name ∈ (merge done more).map Prod.fst ↔
      name ∈ done.map Prod.fst ∨ name ∈ more.map Prod.fst := by
  induction more generalizing done with
  | nil => simp [merge]
  | cons q qs ih =>
    have hstep : merge done (q :: qs) =
        merge (if (lookup? q.1 done).isSome then done else done ++ [q]) qs := rfl
    rw [hstep, ih]
    split
    · next h =>
      have hq : q.1 ∈ done.map Prod.fst := isSome_lookup?_iff.mp h
      rw [List.map_cons, List.mem_cons]
      constructor
      · rintro (hname | hname)
        · exact .inl hname
        · exact .inr (.inr hname)
      · rintro (hname | rfl | hname)
        · exact .inl hname
        · exact .inl hq
        · exact .inr hname
    · simp [or_assoc]

theorem nodup_names_merge {done : List (String × Body)} (more : List (String × Body))
    (h : (done.map Prod.fst).Nodup) : ((merge done more).map Prod.fst).Nodup := by
  induction more generalizing done with
  | nil => exact h
  | cons q qs ih =>
    have hstep : merge done (q :: qs) =
        merge (if (lookup? q.1 done).isSome then done else done ++ [q]) qs := rfl
    rw [hstep]
    refine ih ?_
    split
    · exact h
    · next hnone =>
      have hq : q.1 ∉ done.map Prod.fst := fun hmem => hnone (isSome_lookup?_iff.mpr hmem)
      rw [List.map_append, List.map_singleton]
      have hone : [q.1].Nodup := List.nodup_cons.mpr ⟨List.not_mem_nil, List.nodup_nil⟩
      refine List.nodup_append.mpr ⟨h, hone, fun a ha b hb heq => ?_⟩
      rw [List.mem_singleton.mp hb] at heq
      exact hq (heq ▸ ha)

theorem mem_names_definitionsOf {ctx : Context} {name : String} :
    name ∈ (definitionsOf ctx).map Prod.fst ↔
      ∃ b ∈ branchesOf ctx, name ∈ b.definitions.map Prod.fst := by
  have hfold : ∀ (bs : List Branch) (done : List (String × Body)),
      name ∈ (bs.foldl (fun done b => merge done b.definitions) done).map Prod.fst ↔
        name ∈ done.map Prod.fst ∨ ∃ b ∈ bs, name ∈ b.definitions.map Prod.fst := by
    intro bs
    induction bs with
    | nil => simp
    | cons b bs ih =>
      intro done
      rw [List.foldl_cons, ih, mem_names_merge, or_assoc]
      simp
  rw [definitionsOf, hfold]
  simp only [List.map_nil, List.not_mem_nil, false_or]

theorem nodup_names_definitionsOf (ctx : Context) :
    ((definitionsOf ctx).map Prod.fst).Nodup := by
  have hfold : ∀ (bs : List Branch) (done : List (String × Body)), (done.map Prod.fst).Nodup →
      ((bs.foldl (fun done b => merge done b.definitions) done).map Prod.fst).Nodup := by
    intro bs
    induction bs with
    | nil => exact fun _ h => h
    | cons b bs ih => exact fun done h => ih _ (nodup_names_merge _ h)
  exact hfold (branchesOf ctx) [] List.nodup_nil

theorem mem_or_mem_of_mem_merge {done more : List (String × Body)} {n : String × Body}
    (h : n ∈ merge done more) : n ∈ done ∨ n ∈ more := by
  induction more generalizing done with
  | nil => exact .inl h
  | cons n' more ih =>
    rcases ih h with hdone | hmore
    · change n ∈ (if (lookup? n'.1 done).isSome then done else done ++ [n']) at hdone
      split at hdone
      · exact .inl hdone
      · rcases List.mem_append.mp hdone with hdone | hnew
        · exact .inl hdone
        · cases List.mem_singleton.mp hnew
          exact .inr List.mem_cons_self
    · exact .inr (List.mem_cons_of_mem _ hmore)

theorem exists_of_mem_definitionsOf {ctx : Context} {n : String × Body}
    (h : n ∈ definitionsOf ctx) : ∃ b ∈ branchesOf ctx, n ∈ b.definitions := by
  have hfold (bs : List Branch) (done : List (String × Body))
      (hn : n ∈ bs.foldl (fun done b => merge done b.definitions) done) :
      n ∈ done ∨ ∃ b ∈ bs, n ∈ b.definitions := by
    induction bs generalizing done with
    | nil => exact .inl hn
    | cons b bs ih =>
      rcases ih _ hn with hmerged | ⟨b', hb', hnb'⟩
      · refine (mem_or_mem_of_mem_merge hmerged).imp_right fun hnb => ?_
        exact ⟨b, List.mem_cons_self, hnb⟩
      · exact .inr ⟨b', List.mem_cons_of_mem _ hb', hnb'⟩
  rcases hfold _ [] h with hnil | hsome
  · cases hnil
  · exact hsome

end Query

/-! ## What fragments define and join -/

namespace Sql

/-- The table or named query that a source gives its rows from, if it is not an inner query. -/
def Source.tableName? : Source → Option String
  | .first (.table name) _ | .join _ (.table name) _ _ => some name
  | _ => none

/-- The branch has the rows of a table or named query among its sources. -/
def Branch.Joins (b : Branch) (name : String) : Prop :=
  ∃ s ∈ b.sources, s.tableName? = some name

namespace Fragment

def defined? : Fragment → Option (String × Body)
  | .define name body => some (name, body)
  | _ => none

def sources : Fragment → List Source
  | .source s => [s]
  | .join _ ss => ss
  | _ => []

def defines (name : String) (f : Fragment) : Bool := (f.defined?.map Prod.fst) == some name

def joins (name : String) (f : Fragment) : Bool := f.sources.any (·.tableName? == some name)

/-- A join has the key of a named query exactly when it joins the named query. -/
def isKeyed (t : Table) : Fragment → Bool
  | .join key ss => (key == t.handle) == ss.any (·.tableName? == some t.name)
  | _ => true

def isNamed (f : Fragment) : Bool :=
  f.defined?.all fun q => Table.namedQueries.any (·.name == q.1)

def isPlain (f : Fragment) : Bool :=
  f.isNamed && Table.namedQueries.all fun t =>
    !f.defines t.name && !f.joins t.name && f.isKeyed t

end Fragment

namespace Branch

variable {b : Branch} {fs : List Fragment} {name key : String} {s : Source}

theorem add_definitions (b : Branch) (f : Fragment) :
    (b.add f).definitions = Query.merge b.definitions f.defined?.toList := by
  cases f <;> simp only [add, Fragment.defined?, Option.toList] <;> (try split) <;>
    simp_all [Query.merge]

theorem addAll_definitions (b : Branch) (fs : List Fragment) :
    (b.addAll fs).definitions = Query.merge b.definitions (fs.filterMap Fragment.defined?) := by
  induction fs generalizing b with
  | nil => rfl
  | cons f fs ih =>
    rw [addAll_cons, ih, add_definitions]
    cases h : f.defined? <;> simp [Query.merge, h]

theorem mem_names_ofFragments :
    name ∈ (ofFragments fs).definitions.map Prod.fst ↔ fs.any (·.defines name) = true := by
  unfold ofFragments
  rw [addAll_definitions, Query.mem_names_merge, List.any_eq_true]
  simp only [empty, List.map_nil, List.not_mem_nil, false_or, List.mem_map, List.mem_filterMap,
    Fragment.defines, beq_iff_eq]
  constructor
  · rintro ⟨q, ⟨f, hf, hq⟩, rfl⟩
    exact ⟨f, hf, by rw [hq]; rfl⟩
  · rintro ⟨f, hf, hname⟩
    obtain ⟨q, hq, rfl⟩ := Option.map_eq_some_iff.mp hname
    exact ⟨q, ⟨f, hf, hq⟩, rfl⟩

theorem mem_sources_add {f : Fragment} (h : s ∈ (b.add f).sources) :
    s ∈ b.sources ∨ s ∈ f.sources := by
  revert h
  cases f <;> simp only [add, Fragment.sources] <;> (try split) <;> simp +contextual

theorem mem_sources_addAll (h : s ∈ (b.addAll fs).sources) :
    s ∈ b.sources ∨ ∃ f ∈ fs, s ∈ f.sources := by
  induction fs generalizing b with
  | nil => exact .inl h
  | cons f fs ih =>
    rcases ih h with hadd | ⟨g, hg, hs⟩
    · rcases mem_sources_add hadd with hb | hf
      · exact .inl hb
      · exact .inr ⟨f, .head _, hf⟩
    · exact .inr ⟨g, .tail _ hg, hs⟩

theorem hasJoin_add {f : Fragment} (h : b.hasJoin key = false)
    (hf : ∀ ss, f ≠ .join key ss) : (b.add f).hasJoin key = false := by
  cases f with
  | join key' ss =>
    have hne : key ≠ key' := fun heq => hf ss (by rw [heq])
    simp only [add]
    split
    · exact h
    · simpa [hasJoin, hne] using h
  | _ =>
    simp only [add]
    try split
    all_goals exact h

/-- Of the joins with one key the first is in effect: its sources are there. -/
theorem join_in_effect {ss : List Source} (h : .join key ss ∈ fs) (hb : b.hasJoin key = false) :
    ∃ ss', .join key ss' ∈ fs ∧ ss' ⊆ (b.addAll fs).sources := by
  induction fs generalizing b with
  | nil => exact absurd h List.not_mem_nil
  | cons f fs ih =>
    by_cases hf : ∃ ss', f = .join key ss'
    · obtain ⟨ss', rfl⟩ := hf
      refine ⟨ss', .head _, fun s hs => addAll_sources _ fs ?_⟩
      rw [add, if_neg (by simp [hb])]
      exact List.mem_append_right _ hs
    · have hadd : (b.add f).hasJoin key = false :=
        hasJoin_add hb fun ss' heq => hf ⟨ss', heq⟩
      have hrest : .join key ss ∈ fs := by
        rcases List.mem_cons.mp h with heq | hrest
        · exact absurd ⟨ss, heq.symm⟩ hf
        · exact hrest
      obtain ⟨ss', hss', hsub⟩ := ih hrest hadd
      exact ⟨ss', .tail _ hss', hsub⟩

end Branch
end Sql

/-! ## Groups of fragments -/

/-- The definitions and the joins of named queries go together. -/
def backed (fs : List Fragment) : Bool :=
  fs.all Fragment.isNamed && Table.namedQueries.all fun t =>
    (fs.any (·.defines t.name) == fs.any (·.joins t.name)) && fs.all (·.isKeyed t)

theorem backed_append {fs gs : List Fragment} (hfs : backed fs = true) (hgs : backed gs = true) :
    backed (fs ++ gs) = true := by
  simp only [backed, Bool.and_eq_true, List.all_eq_true, beq_iff_eq, List.any_append,
    List.mem_append] at hfs hgs ⊢
  refine ⟨fun f hf => hf.elim (hfs.1 f) (hgs.1 f), fun t ht => ⟨?_, ?_⟩⟩
  · rw [(hfs.2 t ht).1, (hgs.2 t ht).1]
  · exact fun f hf => hf.elim ((hfs.2 t ht).2 f) ((hgs.2 t ht).2 f)

theorem backed_flatMap {α : Type} {as : List α} {g : α → List Fragment}
    (h : ∀ a ∈ as, backed (g a) = true) : backed (as.flatMap g) = true := by
  induction as with
  | nil => rfl
  | cons a as ih =>
    rw [List.flatMap_cons]
    exact backed_append (h a (.head _)) (ih fun a' ha' => h a' (.tail _ ha'))

theorem backed_of_plain {fs : List Fragment} (h : fs.all Fragment.isPlain = true) :
    backed fs = true := by
  simp only [List.all_eq_true, Fragment.isPlain, Bool.and_eq_true, Bool.not_eq_true'] at h
  simp only [backed, Bool.and_eq_true, List.all_eq_true, beq_iff_eq]
  refine ⟨fun f hf => (h f hf).1, fun t ht => ⟨?_, fun f hf => ((h f hf).2 t ht).2⟩⟩
  have hdefines : fs.any (·.defines t.name) = false :=
    List.any_eq_false.mpr fun f hf => by simp [((h f hf).2 t ht).1.1]
  have hjoins : fs.any (·.joins t.name) = false :=
    List.any_eq_false.mpr fun f hf => by simp [((h f hf).2 t ht).1.2]
  rw [hdefines, hjoins]

theorem backed_cons {f : Fragment} {fs : List Fragment} (hf : f.isPlain = true)
    (hfs : backed fs = true) : backed (f :: fs) = true := by
  have hone : backed [f] = true := backed_of_plain (by simp [hf])
  exact backed_append hone hfs

/-- A branch made from such groups defines exactly the named queries that it joins. -/
theorem mem_names_iff_joins {fs : List Fragment} (h : backed fs = true) {name : String} :
    name ∈ (Branch.ofFragments fs).definitions.map Prod.fst ↔
      (∃ t ∈ Table.namedQueries, t.name = name) ∧ (Branch.ofFragments fs).Joins name := by
  simp only [backed, Bool.and_eq_true, List.all_eq_true, beq_iff_eq] at h
  obtain ⟨hnamed, hgroups⟩ := h
  rw [Branch.mem_names_ofFragments]
  constructor
  · intro hdefined
    obtain ⟨f, hf, hname⟩ := List.any_eq_true.mp hdefined
    obtain ⟨q, hq, rfl⟩ := Option.map_eq_some_iff.mp (beq_iff_eq.mp hname)
    have hq' := hnamed f hf
    rw [Fragment.isNamed, hq] at hq'
    obtain ⟨t, ht, hteq⟩ := List.any_eq_true.mp hq'
    have htname : t.name = q.1 := beq_iff_eq.mp hteq
    refine ⟨⟨t, ht, htname⟩, ?_⟩
    obtain ⟨hsame, hkeyed⟩ := hgroups t ht
    rw [← htname] at hdefined ⊢
    rw [hsame] at hdefined
    obtain ⟨g, hg, hjoins⟩ := List.any_eq_true.mp hdefined
    cases g with
    | source s =>
      refine ⟨s, Branch.mem_sources_ofFragments hg, ?_⟩
      simpa [Fragment.joins, Fragment.sources] using hjoins
    | join key ss =>
      have hkey : key = t.handle := by
        have hk := hkeyed _ hg
        rw [Fragment.isKeyed] at hk
        change ss.any _ = true at hjoins
        rw [hjoins] at hk
        simpa using hk
      obtain ⟨ss', hss', hsub⟩ := Branch.join_in_effect (b := .empty) hg rfl
      have hk := hkeyed _ hss'
      rw [Fragment.isKeyed, hkey, beq_self_eq_true] at hk
      obtain ⟨s, hs, hsname⟩ := List.any_eq_true.mp (beq_iff_eq.mp hk).symm
      exact ⟨s, hsub hs, beq_iff_eq.mp hsname⟩
    | select _ _ => cases hjoins
    | groupBy _ => cases hjoins
    | restrict _ => cases hjoins
    | define _ _ => cases hjoins
  · rintro ⟨⟨t, ht, rfl⟩, s, hs, hsname⟩
    rw [(hgroups t ht).1]
    rcases Branch.mem_sources_addAll hs with hempty | ⟨f, hf, hfs⟩
    · exact absurd hempty List.not_mem_nil
    · refine List.any_eq_true.mpr ⟨f, hf, ?_⟩
      exact List.any_eq_true.mpr ⟨s, hfs, beq_iff_eq.mpr hsname⟩

end LearningReports
