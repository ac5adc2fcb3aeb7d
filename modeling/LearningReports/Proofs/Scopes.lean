import LearningReports.Proofs.NamedQueries
import LearningReports.Proofs.QueryOutlines

/-! # Scopes

The tables that a query may name. The sources of a branch introduce short names, one after the
other, and the condition of a join knows its own short name and the earlier ones. An inner query
knows only the tables that it introduces itself. -/
namespace LearningReports.Sql

/-! ## Expressions and inner queries -/

/-- Every table that qualifies a column of the expression is known. An inner selection knows only
its own table. -/
def Expr.isScoped (known : List String) : Expr → Bool
  | .raw _ => false
  | .word _ | .int _ | .ids _ | .str _ | .verbatim _ | .label _ | .name _ | .moment _ => true
  | .col table _ => known.contains table
  | .noMore => true
  | .pair a b | .op _ a b => a.isScoped known && b.isScoped known
  | .call _ e | .aggregate _ e | .cast e _ | .tryCast e _ | .apply _ e => e.isScoped known
  | .isNull e | .notNull e | .not e | .paren e | .choice e | .otherwise e => e.isScoped known
  | .arm a b c | .choose a b c => a.isScoped known && b.isScoped known && c.isScoped known
  | .inSelect _ e item table condition =>
    e.isScoped known && item.isScoped [table] && condition.isScoped [table]

def TableJoin.areScoped (known : List String) : List TableJoin → Bool
  | [] => true
  | j :: js =>
    j.condition.isScoped (j.handle :: known) && areScoped (j.handle :: known) js

namespace Subselect

/-- The short name of the first table, or its name. -/
def root (q : Subselect) : String := q.handle.getD q.table

def handles (q : Subselect) : List String := q.root :: q.joins.map (·.handle)

/-- The tables of the query are told apart, and it names no others. -/
def isScoped (q : Subselect) : Bool :=
  decide q.handles.Nodup && TableJoin.areScoped [q.root] q.joins
    && q.items.all (·.expr.isScoped q.handles) && q.conditions.all (Expr.isScoped q.handles)
    && q.groupBy.all (Expr.isScoped q.handles) && q.having.all (Expr.isScoped q.handles)

end Subselect

def Relation.isScoped : Relation → Bool
  | .table _ => true
  | .inner q => q.isScoped

def Body.isScoped : Body → Bool
  | .raw _ => false
  | .union qs => qs.all Subselect.isScoped

/-! ## Branches -/

namespace Source

/-- The short name that a source introduces. -/
def handle? : Source → Option String
  | .raw _ => none
  | .first _ handle | .join _ _ handle _ => some handle

def isScoped (known : List String) : Source → Bool
  | .raw _ => false
  | .first r _ => r.isScoped
  | .join _ r handle condition => r.isScoped && condition.isScoped (handle :: known)

/-- Each source names only known tables, its own and those of earlier sources. -/
def areScoped (known : List String) : List Source → Bool
  | [] => true
  | s :: ss => s.isScoped known && areScoped (s.handle?.toList ++ known) ss

end Source

def Restriction.isScoped (known : List String) : Restriction → Bool
  | .raw _ => false
  | .and e => e.isScoped known

def Branch.handles (b : Branch) : List String := b.sources.filterMap Source.handle?

/-- The short names of the branch are told apart, and every clause names only tables that the
branch introduces. Its named queries are scopes of their own. -/
structure Branch.WellScoped (b : Branch) : Prop where
  distinct : b.handles.Nodup
  sources : Source.areScoped [] b.sources = true
  select : ∀ s ∈ b.select, s.1.isScoped b.handles = true
  restrictions : ∀ r ∈ b.restrictions, r.isScoped b.handles = true
  groupBy : ∀ e ∈ b.groupBy, e.isScoped b.handles = true
  definitions : ∀ n ∈ b.definitions, n.2.isScoped = true

namespace Expr

theorem isScoped_mono {known more : List String} (h : known ⊆ more) {e : Expr}
    (he : e.isScoped known = true) : e.isScoped more = true := by
  induction e with
  | raw => cases he
  | col table c => exact List.contains_iff_mem.mpr (h (List.contains_iff_mem.mp he))
  | inSelect _ e item table condition ih =>
    simp only [isScoped, Bool.and_eq_true] at he ⊢
    exact ⟨⟨ih he.1.1, he.1.2⟩, he.2⟩
  | word | int | ids | str | verbatim | label | name | moment | noMore => rfl
  | call _ _ ih | aggregate _ _ ih | cast _ _ ih | tryCast _ _ ih | apply _ _ ih => exact ih he
  | isNull _ ih | notNull _ ih | not _ ih | paren _ ih | choice _ ih | otherwise _ ih => exact ih he
  | pair a b iha ihb | op _ a b iha ihb =>
    simp only [isScoped, Bool.and_eq_true] at he ⊢
    exact ⟨iha he.1, ihb he.2⟩
  | arm a b c iha ihb ihc | choose a b c iha ihb ihc =>
    simp only [isScoped, Bool.and_eq_true] at he ⊢
    exact ⟨⟨iha he.1.1, ihb he.1.2⟩, ihc he.2⟩

end Expr

namespace Source

variable {known more : List String}

theorem isScoped_mono (h : known ⊆ more) {s : Source} (hs : s.isScoped known = true) :
    s.isScoped more = true := by
  cases s with
  | raw => cases hs
  | first => exact hs
  | join k r handle condition =>
    obtain ⟨hr, hcondition⟩ := (Bool.and_eq_true _ _).mp hs
    exact (Bool.and_eq_true _ _).mpr
      ⟨hr, Expr.isScoped_mono (List.cons_subset_cons handle h) hcondition⟩

theorem areScoped_snoc {ss : List Source} {s : Source} (hss : areScoped known ss = true)
    (hs : s.isScoped (ss.filterMap handle? ++ known) = true) :
    areScoped known (ss ++ [s]) = true := by
  induction ss generalizing known with
  | nil => exact (Bool.and_eq_true _ _).mpr ⟨hs, rfl⟩
  | cons s' ss ih =>
    obtain ⟨hs', hss⟩ := (Bool.and_eq_true _ _).mp hss
    refine (Bool.and_eq_true _ _).mpr ⟨hs', ih hss (isScoped_mono ?_ hs)⟩
    intro handle hhandle
    cases h : s'.handle? <;> simp_all [or_left_comm]

end Source

/-! ## Fragments -/

namespace Fragment

variable (known : List String)

/-- A fragment that names only known tables. A join is requested under the short name of its one
source. -/
def isScoped : Fragment → Bool
  | .select e _ => e.isScoped known
  | .source s => s.isScoped known
  | .join key [s] => s.handle? == some key && s.isScoped known
  | .join _ _ => false
  | .groupBy keys => keys.all (Expr.isScoped known)
  | .restrict r => r.isScoped known
  | .define _ body => body.isScoped

def handles (f : Fragment) : List String := f.sources.filterMap Source.handle?

/-- The short name that a fragment introduces without a request by key. -/
def started? : Fragment → Option String
  | .source s => s.handle?
  | _ => none

def key? : Fragment → Option String
  | .join key _ => some key
  | _ => none

/-- Each fragment names only known tables and those of earlier fragments. -/
def areScoped (known : List String) : List Fragment → Bool
  | [] => true
  | f :: fs => f.isScoped known && areScoped (f.handles ++ known) fs

variable {known} {more : List String} {fs gs : List Fragment}

theorem isScoped_mono (h : known ⊆ more) {f : Fragment} (hf : f.isScoped known = true) :
    f.isScoped more = true := by
  match f with
  | .select e _ => exact Expr.isScoped_mono h hf
  | .source s => exact Source.isScoped_mono h hf
  | .join key [s] =>
    obtain ⟨hkey, hs⟩ := (Bool.and_eq_true _ _).mp hf
    exact (Bool.and_eq_true _ _).mpr ⟨hkey, Source.isScoped_mono h hs⟩
  | .groupBy keys =>
    refine List.all_eq_true.mpr fun e he => Expr.isScoped_mono h ?_
    exact List.all_eq_true.mp hf e he
  | .restrict (.and e) =>
    have he : e.isScoped known = true := hf
    exact Expr.isScoped_mono h he
  | .define _ body => exact hf

theorem areScoped_mono (h : known ⊆ more) (hfs : areScoped known fs = true) :
    areScoped more fs = true := by
  induction fs generalizing known more with
  | nil => rfl
  | cons f fs ih =>
    obtain ⟨hf, hfs⟩ := (Bool.and_eq_true _ _).mp hfs
    exact (Bool.and_eq_true _ _).mpr
      ⟨isScoped_mono h hf, ih (List.append_subset.mpr
        ⟨List.subset_append_left _ _, List.subset_append_of_subset_right _ h⟩) hfs⟩

theorem areScoped_append (hfs : areScoped known fs = true)
    (hgs : areScoped (fs.flatMap handles ++ known) gs = true) :
    areScoped known (fs ++ gs) = true := by
  induction fs generalizing known with
  | nil => exact hgs
  | cons f fs ih =>
    obtain ⟨hf, hfs⟩ := (Bool.and_eq_true _ _).mp hfs
    refine (Bool.and_eq_true _ _).mpr ⟨hf, ih hfs (areScoped_mono ?_ hgs)⟩
    intro handle hhandle
    simpa [or_left_comm, or_assoc] using hhandle

theorem areScoped_of_forall (h : ∀ f ∈ fs, f.isScoped known = true) :
    areScoped known fs = true := by
  induction fs generalizing known with
  | nil => rfl
  | cons f fs ih =>
    refine (Bool.and_eq_true _ _).mpr ⟨h f List.mem_cons_self, ih fun g hg => ?_⟩
    exact isScoped_mono (List.subset_append_right _ _) (h g (List.mem_cons_of_mem _ hg))

theorem areScoped_flatMap {α : Type} {as : List α} {g : α → List Fragment}
    (h : ∀ a ∈ as, areScoped known (g a) = true) : areScoped known (as.flatMap g) = true := by
  induction as generalizing known with
  | nil => rfl
  | cons a as ih =>
    rw [List.flatMap_cons]
    refine areScoped_append (h a List.mem_cons_self) (ih fun a' ha' => ?_)
    exact areScoped_mono (List.subset_append_right _ _) (h a' (List.mem_cons_of_mem _ ha'))

end Fragment

/-! ## From fragments to branches -/

namespace Branch

variable {b : Branch} {f : Fragment} {fs : List Fragment} {known : List String}

theorem WellScoped.empty : WellScoped empty :=
  ⟨List.nodup_nil, rfl, nofun, nofun, nofun, nofun⟩

theorem WellScoped.snoc (hb : b.WellScoped) {s : Source} {handle : String}
    (hs : s.isScoped b.handles = true) (hhandle : s.handle? = some handle)
    (hnew : handle ∉ b.handles) (keys : List String) :
    WellScoped { b with sources := b.sources ++ [s], joinKeys := keys } := by
  have hhandles : handles { b with sources := b.sources ++ [s], joinKeys := keys } =
      b.handles ++ [handle] := by
    simp [handles, hhandle]
  have hmore : b.handles ⊆ b.handles ++ [handle] := List.subset_append_left _ _
  constructor
  case distinct =>
    rw [hhandles]
    refine List.nodup_append.mpr ⟨hb.distinct, List.pairwise_singleton _ _, fun a ha c hc heq => ?_⟩
    exact hnew (List.mem_singleton.mp hc ▸ heq ▸ ha)
  case sources =>
    refine Source.areScoped_snoc hb.sources ?_
    rw [List.append_nil]
    exact hs
  case definitions => exact hb.definitions
  all_goals rw [hhandles]
  case select => exact fun s hs => Expr.isScoped_mono hmore (hb.select s hs)
  case groupBy => exact fun e he => Expr.isScoped_mono hmore (hb.groupBy e he)
  case restrictions =>
    intro r hr
    have hscoped := hb.restrictions r hr
    cases r with
    | raw => cases hscoped
    | and e => exact Expr.isScoped_mono hmore hscoped

/-- What a fragment introduces is not there yet, but for a join whose key was requested before. -/
def Admits (b : Branch) : Fragment → Prop
  | .source s => ∃ handle, s.handle? = some handle ∧ handle ∉ b.handles
  | .join key _ => key ∈ b.joinKeys ∨ key ∉ b.handles
  | _ => True

theorem WellScoped.add (hb : b.WellScoped) (hknown : known ⊆ b.handles)
    (hf : f.isScoped known = true) (hnew : b.Admits f) : (b.add f).WellScoped := by
  match f with
  | .select e a =>
    refine { hb with select := mem_append_singleton_elim hb.select ?_ }
    exact Expr.isScoped_mono hknown hf
  | .source s =>
    obtain ⟨handle, hhandle, hnew⟩ := hnew
    exact hb.snoc (Source.isScoped_mono hknown hf) hhandle hnew b.joinKeys
  | .join key [s] =>
    obtain ⟨hkey, hs⟩ := (Bool.and_eq_true _ _).mp hf
    simp only [Branch.add]
    split
    · exact hb
    · next hjoin =>
      have hout : key ∉ b.joinKeys := by
        simpa [hasJoin] using hjoin
      exact hb.snoc (Source.isScoped_mono hknown hs) (beq_iff_eq.mp hkey)
        (hnew.resolve_left hout) _
  | .groupBy keys =>
    refine { hb with groupBy := fun e he => ?_ }
    rcases mem_foldl_addKey.mp he with he | he
    · exact hb.groupBy e he
    · exact Expr.isScoped_mono hknown (List.all_eq_true.mp hf e he)
  | .restrict (.and e) =>
    refine { hb with restrictions := mem_append_singleton_elim hb.restrictions ?_ }
    exact Expr.isScoped_mono hknown hf
  | .define name body =>
    simp only [Branch.add]
    split
    · exact hb
    · exact { hb with definitions := mem_append_singleton_elim hb.definitions hf }

/-- Every short name of the branch was started by a fragment or is the key of a join, and every
such key is a short name. -/
structure Tracked (b : Branch) (started : List String) : Prop where
  keys : b.joinKeys ⊆ b.handles
  handles : b.handles ⊆ started ++ b.joinKeys

theorem Tracked.add {started : List String} (hb : b.Tracked started)
    (hf : f.isScoped known = true) :
    (b.add f).Tracked (started ++ f.started?.toList) ∧ f.handles ⊆ (b.add f).handles := by
  match f with
  | .source s =>
    have hhandles : (b.add (.source s)).handles = b.handles ++ s.handle?.toList := by
      cases h : s.handle? <;> simp [Branch.handles, Branch.add, h]
    have hown : Fragment.handles (.source s) = s.handle?.toList := by
      cases h : s.handle? <;> simp [Fragment.handles, Fragment.sources, h]
    refine ⟨⟨?_, ?_⟩, ?_⟩
    · rw [hhandles]
      exact List.subset_append_of_subset_left _ hb.keys
    · rw [hhandles]
      intro handle hhandle
      rcases List.mem_append.mp hhandle with hold | hnew
      · rcases List.mem_append.mp (hb.handles hold) with h | h
        · exact List.mem_append_left _ (List.mem_append_left _ h)
        · exact List.mem_append_right _ h
      · exact List.mem_append_left _ (List.mem_append_right _ hnew)
    · rw [hhandles, hown]
      exact List.subset_append_right _ _
  | .join key [s] =>
    obtain ⟨hkey, -⟩ := (Bool.and_eq_true _ _).mp hf
    have hhandle : s.handle? = some key := beq_iff_eq.mp hkey
    have hown : Fragment.handles (.join key [s]) = [key] := by
      simp [Fragment.handles, Fragment.sources, hhandle]
    rw [hown, show (Fragment.join key [s]).started?.toList = [] from rfl, List.append_nil]
    simp only [Branch.add]
    split
    · next hjoin =>
      refine ⟨hb, List.cons_subset.mpr ⟨hb.keys ?_, List.nil_subset _⟩⟩
      simpa [hasJoin] using hjoin
    · have hhandles : Branch.handles
          { b with joinKeys := b.joinKeys ++ [key], sources := b.sources ++ [s] } =
            b.handles ++ [key] := by
        simp [Branch.handles, hhandle]
      rw [hhandles]
      refine ⟨⟨?_, ?_⟩, List.subset_append_right _ _⟩
      · rw [hhandles]
        exact List.append_subset.mpr ⟨List.subset_append_of_subset_left _ hb.keys,
          List.subset_append_right _ _⟩
      · rw [hhandles, ← List.append_assoc]
        exact List.append_subset.mpr ⟨List.subset_append_of_subset_left _ hb.handles,
          List.subset_append_right _ _⟩
  | .define name body =>
    simp only [Branch.add, Fragment.started?, Option.toList_none, List.append_nil]
    split <;> exact ⟨⟨hb.keys, hb.handles⟩, List.nil_subset _⟩
  | .restrict r =>
    simp only [Branch.add, Fragment.started?, Option.toList_none, List.append_nil]
    split <;> exact ⟨⟨hb.keys, hb.handles⟩, List.nil_subset _⟩
  | .select e a =>
    rw [show (Fragment.select e a).started?.toList = [] from rfl, List.append_nil]
    exact ⟨⟨hb.keys, hb.handles⟩, List.nil_subset _⟩
  | .groupBy keys =>
    rw [show (Fragment.groupBy keys).started?.toList = [] from rfl, List.append_nil]
    exact ⟨⟨hb.keys, hb.handles⟩, List.nil_subset _⟩

/-- The short names that fragments start are told apart, and no key of a join is one of them. -/
structure Apart (started keys : List String) : Prop where
  distinct : started.Nodup
  apart : ∀ key ∈ keys, key ∉ started

section Steps

variable {started : List String}

/-- A fragment that takes a short name of its own can be added. -/
theorem Tracked.admits (hb : b.Tracked started) (hf : f.isScoped known = true)
    (hapart : Apart (started ++ (f :: fs).filterMap Fragment.started?)
      (b.joinKeys ++ (f :: fs).filterMap Fragment.key?)) : b.Admits f := by
  match f with
  | .source s =>
    obtain ⟨handle, hhandle⟩ : ∃ handle, s.handle? = some handle := by
      cases s with
      | raw => cases hf
      | first => exact ⟨_, rfl⟩
      | join => exact ⟨_, rfl⟩
    refine ⟨handle, hhandle, fun hmem => ?_⟩
    have hstarts : handle ∈ (Fragment.source s :: fs).filterMap Fragment.started? :=
      List.mem_filterMap.mpr ⟨_, List.mem_cons_self, hhandle⟩
    rcases List.mem_append.mp (hb.handles hmem) with hstarted | hkey
    · exact (List.nodup_append.mp hapart.distinct).2.2 _ hstarted _ hstarts rfl
    · exact hapart.apart _ (List.mem_append_left _ hkey) (List.mem_append_right _ hstarts)
  | .join key ss =>
    by_cases hkey : key ∈ b.joinKeys
    · exact .inl hkey
    · refine .inr fun hmem => ?_
      have hkeys : key ∈ (Fragment.join key ss :: fs).filterMap Fragment.key? :=
        List.mem_filterMap.mpr ⟨_, List.mem_cons_self, rfl⟩
      have hstarted := (List.mem_append.mp (hb.handles hmem)).resolve_right hkey
      exact hapart.apart _ (List.mem_append_right _ hkeys) (List.mem_append_left _ hstarted)
  | .select _ _ | .groupBy _ | .restrict _ | .define _ _ => trivial

theorem Apart.add (hapart : Apart (started ++ (f :: fs).filterMap Fragment.started?)
      (b.joinKeys ++ (f :: fs).filterMap Fragment.key?)) :
    Apart (started ++ f.started?.toList ++ fs.filterMap Fragment.started?)
      ((b.add f).joinKeys ++ fs.filterMap Fragment.key?) := by
  have hstarts : started ++ f.started?.toList ++ fs.filterMap Fragment.started? =
      started ++ (f :: fs).filterMap Fragment.started? := by
    cases h : f.started? <;> simp [h]
  have hkeys : (b.add f).joinKeys ⊆ b.joinKeys ++ f.key?.toList := by
    cases f <;> simp only [Branch.add] <;> (try split) <;> simp [Fragment.key?]
  have hmore : f.key?.toList ++ fs.filterMap Fragment.key? =
      (f :: fs).filterMap Fragment.key? := by
    cases h : f.key? <;> simp [h]
  rw [hstarts]
  refine ⟨hapart.distinct, fun key hkey => hapart.apart key ?_⟩
  rw [← hmore, ← List.append_assoc]
  rcases List.mem_append.mp hkey with hkey | hkey
  · exact List.mem_append_left _ (hkeys hkey)
  · exact List.mem_append_right _ hkey

theorem handles_subset_add (b : Branch) (f : Fragment) : b.handles ⊆ (b.add f).handles := by
  intro handle hhandle
  obtain ⟨s, hs, heq⟩ := List.mem_filterMap.mp hhandle
  exact List.mem_filterMap.mpr ⟨s, add_sources b f hs, heq⟩

theorem WellScoped.addAll (hb : b.WellScoped) (htracked : b.Tracked started)
    (hknown : known ⊆ b.handles) (hfs : Fragment.areScoped known fs = true)
    (hapart : Apart (started ++ fs.filterMap Fragment.started?)
      (b.joinKeys ++ fs.filterMap Fragment.key?)) : (b.addAll fs).WellScoped := by
  induction fs generalizing b known started with
  | nil => exact hb
  | cons f fs ih =>
    obtain ⟨hf, hfs⟩ := (Bool.and_eq_true _ _).mp hfs
    obtain ⟨hnext, hown⟩ := htracked.add hf
    have hmore : known ⊆ (b.add f).handles :=
      List.Subset.trans hknown (handles_subset_add b f)
    exact ih (hb.add hknown hf (htracked.admits hf hapart)) hnext
      (List.append_subset.mpr ⟨hown, hmore⟩) hfs hapart.add

end Steps

/-- Fragments of which each names only the tables of itself and of earlier ones make a well scoped
branch. -/
theorem wellScoped_ofFragments (hfs : Fragment.areScoped [] fs = true)
    (hapart : Apart (fs.filterMap Fragment.started?) (fs.filterMap Fragment.key?)) :
    (ofFragments fs).WellScoped := by
  have htracked : Tracked .empty [] := ⟨List.nil_subset _, List.nil_subset _⟩
  exact WellScoped.empty.addAll htracked (List.nil_subset _) hfs hapart

end Branch
end LearningReports.Sql
