import LearningReports.Directory.Records
import LearningReports.Selection.Branches
import Mathlib.Data.List.Basic
import Mathlib.Logic.Relation

/-! # The walk over branches

A directory that knows a finite table of branches is walked level by level. The walk shows the
selected branches, and opens those that are flagged and what lies below them as far as no selected
branch stands in between. -/
namespace LearningReports.Selection

/-! ## Tables of branches -/

def Link (table : List BranchDetails) (parent child : Int) : Prop :=
  ∃ b ∈ table, b.id = parent ∧ child ∈ b.children

def Member (table : List BranchDetails) (branch user : Int) : Prop :=
  ∃ b ∈ table, b.id = branch ∧ user ∈ b.members

/-- The branch is reached by one or more child links from a flagged one. -/
def Below (table : List BranchDetails) (branches : List SelectedItem) (branch : Int) : Prop :=
  ∃ root ∈ withDescendants branches, Relation.TransGen (Link table) root branch

/-- The branch is selected, or lies below one that is selected with its descendants. -/
def Wanted (table : List BranchDetails) (branches : List SelectedItem) (branch : Int) : Prop :=
  branch ∈ selectedIds branches ∨ Below table branches branch

/-- The walk goes on to the children of the branch. A selected branch is opened for its own flag
alone. -/
inductive Opened (table : List BranchDetails) (branches : List SelectedItem) : Int → Prop
  | flagged {branch : Int} (h : branch ∈ withDescendants branches) : Opened table branches branch
  | child {parent child : Int} (hp : Opened table branches parent)
      (hl : Link table parent child) (hs : child ∉ selectedIds branches) :
      Opened table branches child

/-- The walk asks for the branch. -/
def Shown (table : List BranchDetails) (branches : List SelectedItem) (branch : Int) : Prop :=
  branch ∈ selectedIds branches ∨ Opened table branches branch

/-- The directory answers exactly the branches of the table that it is asked for. -/
structure Serves {m : Type → Type} [Monad m] (dir : Directory m) (table : List BranchDetails) :
    Prop where
  branches : ∀ ids, ∃ found, dir.branches ids = pure found ∧
    ∀ b, b ∈ found ↔ b ∈ table ∧ b.id ∈ ids
  branchBound : ∃ n, dir.branchBound = pure n ∧ table.length ≤ n

theorem selectedIds_of_withDescendants {branches : List SelectedItem} {id : Int}
    (h : id ∈ withDescendants branches) : id ∈ selectedIds branches := by
  obtain ⟨item, hitem, rfl⟩ := List.mem_map.mp h
  exact List.mem_map_of_mem (List.mem_filter.mp hitem).1

theorem Opened.flagged_of_selected {table : List BranchDetails} {branches : List SelectedItem}
    {id : Int} (h : Opened table branches id) (hs : id ∈ selectedIds branches) :
    id ∈ withDescendants branches := by
  cases h with
  | flagged h => exact h
  | child _ _ hn => exact absurd hs hn

theorem Opened.wanted {table : List BranchDetails} {branches : List SelectedItem} {id : Int}
    (h : Opened table branches id) :
    id ∈ withDescendants branches ∨ Below table branches id := by
  induction h with
  | flagged h => exact .inl h
  | child _ hl _ ih =>
    right
    rcases ih with hroot | ⟨root, hroot, hpath⟩
    · exact ⟨_, hroot, .single hl⟩
    · exact ⟨root, hroot, hpath.tail hl⟩

theorem Shown.wanted {table : List BranchDetails} {branches : List SelectedItem} {id : Int}
    (h : Shown table branches id) : Wanted table branches id := by
  rcases h with h | h
  · exact .inl h
  · exact h.wanted.imp_left selectedIds_of_withDescendants

/-! ## One level -/

namespace Walk

def fresh (w : Walk) (b : BranchDetails) : List Int :=
  if b.id ∈ w.expanding then b.children.filter fun c => !w.visited.contains c else []

theorem mem_fresh {w : Walk} {b : BranchDetails} {c : Int} :
    c ∈ w.fresh b ↔ b.id ∈ w.expanding ∧ c ∈ b.children ∧ c ∉ w.visited := by
  unfold fresh
  split <;> simp_all

theorem step_eq (w : Walk) (b : BranchDetails) :
    w.step b =
      { visited := w.visited
        expanding := w.expanding ++ w.fresh b
        members := w.members ++ b.members
        next := w.next ++ w.fresh b } := by
  simp only [step, fresh]
  split <;> simp

/-- A child that is added was not asked for, so no branch of the present level is opened by it. -/
theorem fresh_step {w : Walk} {b b' : BranchDetails} (hb : b'.id ∈ w.visited) :
    (w.step b).fresh b' = w.fresh b' := by
  have he : b'.id ∈ w.expanding ++ w.fresh b ↔ b'.id ∈ w.expanding := by
    rw [List.mem_append, mem_fresh]
    exact ⟨fun h => h.elim id fun h => absurd hb h.2.2, .inl⟩
  rw [step_eq]
  change (if b'.id ∈ w.expanding ++ w.fresh b then b'.children.filter _ else []) =
    if b'.id ∈ w.expanding then b'.children.filter _ else []
  simp only [he]

theorem foldl_step (found : List BranchDetails) (w : Walk)
    (hfound : ∀ b ∈ found, b.id ∈ w.visited) :
    found.foldl step w =
      { visited := w.visited
        expanding := w.expanding ++ found.flatMap w.fresh
        members := w.members ++ found.flatMap (·.members)
        next := w.next ++ found.flatMap w.fresh } := by
  induction found generalizing w with
  | nil => simp
  | cons b bs ih =>
    have hbs : ∀ b' ∈ bs, b'.id ∈ w.visited := fun b' h => hfound b' (.tail _ h)
    have hsame : bs.flatMap (w.step b).fresh = bs.flatMap w.fresh :=
      List.flatMap_congr fun b' h => fresh_step (hbs b' h)
    rw [List.foldl_cons, ih (w.step b) (by rw [step_eq]; exact hbs), hsame, step_eq]
    simp only [List.flatMap_cons, List.append_assoc]

theorem advance_eq (w : Walk) (level : List Int) (found : List BranchDetails)
    (hfound : ∀ b ∈ found, b.id ∈ level) :
    w.advance level found =
      { visited := w.visited ++ level
        expanding := w.expanding ++ found.flatMap (w.enter level).fresh
        members := w.members ++ found.flatMap (·.members)
        next := found.flatMap (w.enter level).fresh } := by
  unfold advance
  rw [foldl_step _ _ fun b h => List.mem_append_right _ (hfound b h)]
  simp only [enter, List.nil_append]

end Walk

/-! ## All levels -/

/-- What holds of a walk that is about to ask for a level. -/
structure Progress (table : List BranchDetails) (branches : List SelectedItem) (w : Walk)
    (level : List Int) : Prop where
  shown : ∀ id, id ∈ w.visited ∨ id ∈ level → Shown table branches id
  selected : ∀ id ∈ selectedIds branches, id ∈ w.visited ∨ id ∈ level
  fresh : ∀ id ∈ level, id ∉ w.visited
  sound : ∀ id ∈ w.expanding, Opened table branches id
  complete : ∀ id, id ∈ w.visited ∨ id ∈ level → Opened table branches id → id ∈ w.expanding
  closed : ∀ p c, p ∈ w.visited → p ∈ w.expanding → Link table p c → c ∈ w.visited ∨ c ∈ level
  members : ∀ u, u ∈ w.members ↔ ∃ id ∈ w.visited, Member table id u

theorem Progress.start (table : List BranchDetails) (branches : List SelectedItem) :
    Progress table branches
      { visited := [], expanding := withDescendants branches, members := [] }
      (sortedIds (selectedIds branches)) where
  shown id h := h.elim (fun h => absurd h List.not_mem_nil) fun h => .inl (mem_sortedIds.mp h)
  selected id h := .inr (mem_sortedIds.mpr h)
  fresh _ _ := List.not_mem_nil
  sound _ h := .flagged h
  complete id h ho := by
    rcases h with h | h
    · exact absurd h List.not_mem_nil
    · exact ho.flagged_of_selected (mem_sortedIds.mp h)
  closed _ _ h := absurd h List.not_mem_nil
  members u := by simp

/-- One level keeps what holds of the walk. -/
theorem Progress.advance {table : List BranchDetails} {branches : List SelectedItem} {w : Walk}
    {level : List Int} {found : List BranchDetails} (hw : Progress table branches w level)
    (hfound : ∀ b, b ∈ found ↔ b ∈ table ∧ b.id ∈ level) :
    Progress table branches (w.advance level found)
      (sortedIds (w.advance level found).next) := by
  rw [Walk.advance_eq w level found fun b h => ((hfound b).mp h).2]
  have hnext : ∀ c, c ∈ found.flatMap (w.enter level).fresh ↔
      ∃ p ∈ level, p ∈ w.expanding ∧ Link table p c ∧ ¬(c ∈ w.visited ∨ c ∈ level) := by
    intro c
    simp only [List.mem_flatMap, Walk.mem_fresh, hfound, Walk.enter, List.mem_append, Link]
    constructor
    · rintro ⟨b, ⟨hb, hlevel⟩, hopen, hc, hnew⟩
      exact ⟨b.id, hlevel, hopen, ⟨b, hb, rfl, hc⟩, hnew⟩
    · rintro ⟨p, hlevel, hopen, ⟨b, hb, rfl, hc⟩, hnew⟩
      exact ⟨b, ⟨hb, hlevel⟩, hopen, hc, hnew⟩
  have hopened : ∀ c ∈ found.flatMap (w.enter level).fresh, Opened table branches c := by
    intro c hc
    obtain ⟨p, -, hopen, hlink, hnew⟩ := (hnext c).mp hc
    exact .child (hw.sound p hopen) hlink fun hs => hnew (hw.selected c hs)
  constructor
  case shown =>
    intro id h
    simp only [List.mem_append, mem_sortedIds] at h
    rcases h with h | h
    · exact hw.shown id h
    · exact .inr (hopened id h)
  case selected =>
    intro id h
    exact .inl (List.mem_append.mpr (hw.selected id h))
  case fresh =>
    intro id h
    obtain ⟨-, -, -, -, hnew⟩ := (hnext id).mp (mem_sortedIds.mp h)
    exact fun hv => hnew (List.mem_append.mp hv)
  case sound =>
    intro id h
    rcases List.mem_append.mp h with h | h
    · exact hw.sound id h
    · exact hopened id h
  case complete =>
    intro id h ho
    simp only [List.mem_append, mem_sortedIds] at h ⊢
    exact h.imp_left fun h => hw.complete id h ho
  case closed =>
    intro p c hp hopen hlink
    simp only [List.mem_append, mem_sortedIds] at hp hopen ⊢
    by_cases hc : c ∈ w.visited ∨ c ∈ level
    · exact .inl hc
    · right
      have hpe : p ∈ w.expanding := by
        rcases hopen with h | h
        · exact h
        · obtain ⟨-, -, -, -, hnew⟩ := (hnext p).mp h
          exact absurd hp hnew
      rcases hp with hp | hp
      · exact absurd (hw.closed p c hp hpe hlink) hc
      · exact (hnext c).mpr ⟨p, hp, hpe, hlink, hc⟩
  case members =>
    intro u
    simp only [List.mem_append, List.mem_flatMap, hw.members, hfound, Member]
    constructor
    · rintro (⟨id, hid, hu⟩ | ⟨b, ⟨hb, hlevel⟩, hu⟩)
      · exact ⟨id, .inl hid, hu⟩
      · exact ⟨b.id, .inr hlevel, b, hb, rfl, hu⟩
    · rintro ⟨id, hid | hid, b, hb, rfl, hu⟩
      · exact .inl ⟨b.id, hid, b, hb, rfl, hu⟩
      · exact .inr ⟨b, ⟨hb, hid⟩, hu⟩

theorem Progress.finished {table : List BranchDetails} {branches : List SelectedItem} {w : Walk}
    (hw : Progress table branches w []) (u : Int) :
    u ∈ w.members ↔ ∃ id, Shown table branches id ∧ Member table id u := by
  have hsel : ∀ id ∈ selectedIds branches, id ∈ w.visited := fun id h =>
    (hw.selected id h).resolve_right List.not_mem_nil
  have hopen : ∀ id, Opened table branches id → id ∈ w.visited := by
    intro id h
    induction h with
    | flagged h => exact hsel _ (selectedIds_of_withDescendants h)
    | child hp hl _ ih =>
      exact (hw.closed _ _ ih (hw.complete _ (.inl ih) hp) hl).resolve_right List.not_mem_nil
  rw [hw.members]
  constructor
  · rintro ⟨id, hid, hu⟩
    exact ⟨id, hw.shown id (.inl hid), hu⟩
  · rintro ⟨id, hid | hid, hu⟩
    · exact ⟨id, hsel id hid, hu⟩
    · exact ⟨id, hopen id hid, hu⟩

def unvisited (table : List BranchDetails) (w : Walk) : List BranchDetails :=
  table.filter fun b => b.id ∉ w.visited

theorem unvisited_advance_lt {table : List BranchDetails} {w : Walk} {level : List Int}
    {found : List BranchDetails} (hfound : ∀ b ∈ found, b ∈ table ∧ b.id ∈ level)
    (hfresh : ∀ id ∈ level, id ∉ w.visited) (hne : found ≠ []) :
    (unvisited table (w.advance level found)).length < (unvisited table w).length := by
  obtain ⟨b, hb⟩ := List.exists_mem_of_ne_nil found hne
  obtain ⟨hbt, hbl⟩ := hfound b hb
  rw [Walk.advance_eq w level found fun b h => (hfound b h).2]
  have hsplit : unvisited table { w with visited := w.visited ++ level } =
      (unvisited table w).filter fun b => b.id ∉ level := by
    unfold unvisited
    rw [List.filter_filter]
    congr 1
    funext b
    simp [and_comm]
  change (unvisited table { w with visited := w.visited ++ level }).length < _
  rw [hsplit]
  refine List.length_filter_lt_length_iff_exists.mpr ⟨b, ?_, by simpa using hbl⟩
  exact List.mem_filter.mpr ⟨hbt, by simpa using hfresh _ hbl⟩

def serving {m : Type → Type} [Monad m] (dir : Directory m) (table : List BranchDetails) :
    Directory m :=
  { dir with
    branches := fun ids => pure (table.filter fun b => ids.contains b.id)
    branchBound := pure table.length }

theorem serves_serving {m : Type → Type} [Monad m] (dir : Directory m)
    (table : List BranchDetails) : Serves (serving dir table) table where
  branches ids := ⟨_, rfl, fun b => by simp⟩
  branchBound := ⟨_, rfl, Nat.le_refl _⟩

variable {m : Type → Type} [Monad m] [LawfulMonad m]

/-- From every walk that has come so far, the rest of the walk ends well. -/
theorem walkFrom_spec {dir : Directory m} {table : List BranchDetails}
    {branches : List SelectedItem} (hdir : Serves dir table) (fuel : Nat) (w : Walk)
    (level : List Int) (hw : Progress table branches w level)
    (hfuel : level = [] ∨ (unvisited table w).length < fuel) :
    ∃ found, walkFrom dir fuel w level = pure found ∧
      ∀ u, u ∈ found ↔ ∃ id, Shown table branches id ∧ Member table id u := by
  induction fuel generalizing w level with
  | zero =>
    have hlevel : level = [] := hfuel.resolve_right (Nat.not_lt_zero _)
    subst hlevel
    exact ⟨w.members, rfl, hw.finished⟩
  | succ fuel ih =>
    by_cases hlevel : level = []
    · subst hlevel
      exact ⟨w.members, rfl, hw.finished⟩
    · obtain ⟨found, hask, hfound⟩ := hdir.branches level
      -- a level that finds nothing ends the walk; any other leaves fewer branches to visit
      have hstep := ih (w.advance level found) _ (hw.advance hfound) (by
        by_cases hne : found = []
        · subst hne
          exact .inl rfl
        · have hless := unvisited_advance_lt (fun b => (hfound b).mp) hw.fresh hne
          have hcount := hfuel.resolve_left hlevel
          right
          omega)
      obtain ⟨users, hrun, husers⟩ := hstep
      refine ⟨users, ?_, husers⟩
      rw [walkFrom, if_neg (by simpa using hlevel), hask, pure_bind, hrun]

/-- The members found are those of the branches that the walk shows. -/
theorem branchMembers_spec {dir : Directory m} {table : List BranchDetails}
    (hdir : Serves dir table) (branches : List SelectedItem) :
    ∃ found, branchMembers dir branches = pure found ∧
      ∀ u, u ∈ found ↔ ∃ id, Shown table branches id ∧ Member table id u := by
  obtain ⟨n, hbound, hn⟩ := hdir.branchBound
  have hfuel : ∀ w, (unvisited table w).length < n + 2 := fun w =>
    Nat.lt_of_le_of_lt (List.length_filter_le _ _) (by omega)
  obtain ⟨found, hrun, hfound⟩ :=
    walkFrom_spec hdir (n + 2) _ _ (Progress.start table branches) (.inr (hfuel _))
  exact ⟨found, by rw [branchMembers, hbound, pure_bind, hrun], hfound⟩

/-! ## What is missing -/

/-- The branch lies below a flagged one, but every way down to it passes a selected branch that is
not flagged itself. -/
def Lost (table : List BranchDetails) (branches : List SelectedItem) (branch : Int) : Prop :=
  Wanted table branches branch ∧ ¬Shown table branches branch

/-- The walk finds only members that are wanted, and it finds all of them exactly when every member
of a lost branch is a member of a shown one as well. -/
theorem branchMembers_complete_iff {dir : Directory m} {table : List BranchDetails}
    (hdir : Serves dir table) (branches : List SelectedItem) :
    ∃ found, branchMembers dir branches = pure found ∧
      (∀ u ∈ found, ∃ id, Wanted table branches id ∧ Member table id u) ∧
      ((∀ id u, Wanted table branches id → Member table id u → u ∈ found) ↔
        ∀ id u, Lost table branches id → Member table id u →
          ∃ other, Shown table branches other ∧ Member table other u) := by
  obtain ⟨found, hrun, hfound⟩ := branchMembers_spec hdir branches
  refine ⟨found, hrun, ?_, ?_, ?_⟩
  · intro u hu
    obtain ⟨id, hid, hmember⟩ := (hfound u).mp hu
    exact ⟨id, hid.wanted, hmember⟩
  · intro h id u hlost hmember
    exact (hfound u).mp (h id u hlost.1 hmember)
  · intro h id u hwanted hmember
    by_cases hshown : Shown table branches id
    · exact (hfound u).mpr ⟨id, hshown, hmember⟩
    · exact (hfound u).mpr (h id u ⟨hwanted, hshown⟩ hmember)

def chain : List BranchDetails := [
  { id := 1, children := [2], members := [10] }, { id := 2, children := [3], members := [20] },
  { id := 3, members := [30] }]

/-- The first branch with its descendants, and the second one without. -/
def overlapping : List SelectedItem := [{ id := 1, descendants := true }, { id := 2 }]

def chainDirectory : Directory Outcome :=
  serving (Records.directory { session := { idUser := 1 } }) chain

/-- The third branch is wanted, but its member is not found. -/
theorem branchMembers_overlapping :
    Serves chainDirectory chain ∧ Wanted chain overlapping 3 ∧ Member chain 3 30 ∧
      ∃ found, branchMembers chainDirectory overlapping = pure found ∧ 30 ∉ found := by
  have h12 : Link chain 1 2 := ⟨{ id := 1, children := [2], members := [10] }, by decide⟩
  have h23 : Link chain 2 3 := ⟨{ id := 2, children := [3], members := [20] }, by decide⟩
  have hbelow : Below chain overlapping 3 := ⟨1, by decide, (Relation.TransGen.single h12).tail h23⟩
  exact ⟨serves_serving _ _, .inr hbelow, ⟨{ id := 3, members := [30] }, by decide⟩, [10, 20], rfl,
    by decide⟩

theorem branchMembers_complete_iff_overlapping :
    Serves chainDirectory chain ∧
      ∃ found, branchMembers chainDirectory overlapping = pure found ∧
        (∀ u ∈ found, ∃ id, Wanted chain overlapping id ∧ Member chain id u) ∧
        ((∀ id u, Wanted chain overlapping id → Member chain id u → u ∈ found) ↔
          ∀ id u, Lost chain overlapping id → Member chain id u →
            ∃ other, Shown chain overlapping other ∧ Member chain other u) :=
  ⟨serves_serving _ _, branchMembers_complete_iff (serves_serving _ _) overlapping⟩

end LearningReports.Selection
