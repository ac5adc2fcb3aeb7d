import LearningReports.Proofs.BranchWalk

/-! # Requests of a walk over branches

A directory may leave out branches that it is asked for, as long as it tells of no others. Then the
walk over a finite table still comes to its end by itself, asks for no branch twice and finds only
members that are wanted. -/
namespace LearningReports.Selection

/-- Before each answer the directory makes a note of the request. It answers with branches of the
table that it is asked for, and not always with all of them. -/
structure Answers {m : Type → Type} [Monad m] (dir : Directory m) (table : List BranchDetails)
    (note : List Int → m Unit) (answer : List Int → List BranchDetails) : Prop where
  branches : ∀ ids, dir.branches ids = (do note ids; pure (answer ids))
  asked : ∀ ids, ∀ b ∈ answer ids, b ∈ table ∧ b.id ∈ ids
  branchBound : ∃ n, dir.branchBound = pure n ∧ table.length ≤ n

def Walk.start (branches : List SelectedItem) : Walk :=
  { visited := [], expanding := withDescendants branches, members := [] }

/-- A whole walk from a level on, with no bound set to it: the levels that it asks for in turn, and
the members that it ends with. -/
inductive Walks (answer : List Int → List BranchDetails) :
    Walk → List Int → List (List Int) → List Int → Prop
  | done {w : Walk} : Walks answer w [] [] w.members
  | level {w : Walk} {level : List Int} {levels : List (List Int)} {found : List Int}
      (hlevel : level ≠ [])
      (hrest : Walks answer (w.advance level (answer level))
        (sortedIds (w.advance level (answer level)).next) levels found) :
      Walks answer w level (level :: levels) found

/-! ## One level -/

/-- A walk that has gone no further than it was told to. -/
structure Contained (table : List BranchDetails) (branches : List SelectedItem) (w : Walk)
    (level : List Int) : Prop where
  wanted : ∀ id, id ∈ w.visited ∨ id ∈ level → Wanted table branches id
  expanding : ∀ id ∈ w.expanding, id ∈ withDescendants branches ∨ Below table branches id
  nodup : level.Nodup
  fresh : ∀ id ∈ level, id ∉ w.visited
  members : ∀ u ∈ w.members, ∃ id, Wanted table branches id ∧ Member table id u

theorem nodup_sortedIds (ids : List Int) : (sortedIds ids).Nodup :=
  (pairwise_sortedIds ids).imp fun h => by omega

theorem Contained.start (table : List BranchDetails) (branches : List SelectedItem) :
    Contained table branches (.start branches) (sortedIds (selectedIds branches)) where
  wanted _ h := .inl (mem_sortedIds.mp (h.resolve_left List.not_mem_nil))
  expanding _ h := .inl h
  nodup := nodup_sortedIds _
  fresh _ _ := List.not_mem_nil
  members _ h := absurd h List.not_mem_nil

theorem below_of_link {table : List BranchDetails} {branches : List SelectedItem} {p c : Int}
    (hp : p ∈ withDescendants branches ∨ Below table branches p) (hlink : Link table p c) :
    Below table branches c := by
  rcases hp with hroot | ⟨root, hroot, hpath⟩
  · exact ⟨p, hroot, .single hlink⟩
  · exact ⟨root, hroot, hpath.tail hlink⟩

/-- One level keeps a walk contained, whatever part of the level is answered. -/
theorem Contained.advance {table : List BranchDetails} {branches : List SelectedItem} {w : Walk}
    {level : List Int} {found : List BranchDetails} (hw : Contained table branches w level)
    (hfound : ∀ b ∈ found, b ∈ table ∧ b.id ∈ level) :
    Contained table branches (w.advance level found) (sortedIds (w.advance level found).next) := by
  rw [Walk.advance_eq w level found fun b h => (hfound b h).2]
  have hnew : ∀ c ∈ found.flatMap (w.enter level).fresh,
      Below table branches c ∧ c ∉ w.visited ++ level := by
    intro c hc
    obtain ⟨b, hb, hc⟩ := List.mem_flatMap.mp hc
    obtain ⟨hopen, hchild, hfresh⟩ := Walk.mem_fresh.mp hc
    have hlink : Link table b.id c := ⟨b, (hfound b hb).1, rfl, hchild⟩
    exact ⟨below_of_link (hw.expanding b.id hopen) hlink, hfresh⟩
  constructor
  case wanted =>
    intro id h
    rcases h with h | h
    · exact hw.wanted id (List.mem_append.mp h)
    · exact .inr (hnew id (mem_sortedIds.mp h)).1
  case expanding =>
    intro id h
    rcases List.mem_append.mp h with h | h
    · exact hw.expanding id h
    · exact .inr (hnew id h).1
  case nodup => exact nodup_sortedIds _
  case fresh =>
    intro id h
    exact (hnew id (mem_sortedIds.mp h)).2
  case members =>
    intro u h
    rcases List.mem_append.mp h with h | h
    · exact hw.members u h
    · obtain ⟨b, hb, hu⟩ := List.mem_flatMap.mp h
      obtain ⟨htable, hlevel⟩ := hfound b hb
      exact ⟨b.id, hw.wanted b.id (.inr hlevel), b, htable, rfl, hu⟩

/-! ## All levels -/

variable {table : List BranchDetails} {branches : List SelectedItem}
  {answer : List Int → List BranchDetails} {w : Walk} {level : List Int}
  {levels : List (List Int)} {found : List Int}

theorem Walks.last (hlevel : level ≠ []) (hnone : answer level = []) :
    Walks answer w level [level] (w.advance level []).members := by
  apply Walks.level hlevel
  rw [hnone]
  exact .done

/-- Every walk ends: a level that finds something leaves fewer branches of the table to visit. -/
theorem exists_walks (hanswer : ∀ ids, ∀ b ∈ answer ids, b ∈ table ∧ b.id ∈ ids)
    (hw : Contained table branches w level) :
    ∃ levels found, Walks answer w level levels found ∧
      levels.length ≤ (unvisited table w).length + 1 := by
  induction hn : (unvisited table w).length using Nat.strongRecOn generalizing w level with
  | ind n ih =>
    by_cases hlevel : level = []
    · subst hlevel
      exact ⟨[], w.members, .done, by simp⟩
    · by_cases hnone : answer level = []
      · exact ⟨[level], _, .last hlevel hnone, by simp⟩
      · have hless := unvisited_advance_lt (hanswer level) hw.fresh hnone
        rw [hn] at hless
        obtain ⟨levels, found, hrest, hlength⟩ := ih _ hless (hw.advance (hanswer level)) rfl
        refine ⟨level :: levels, found, .level hlevel hrest, ?_⟩
        rw [List.length_cons]
        omega

/-- What a whole walk asks for is new at every level. -/
theorem Walks.requests (h : Walks answer w level levels found)
    (hanswer : ∀ ids, ∀ b ∈ answer ids, b ∈ table ∧ b.id ∈ ids)
    (hw : Contained table branches w level) :
    levels.flatten.Nodup ∧ ∀ id ∈ levels.flatten, id ∉ w.visited := by
  induction h with
  | done => simp
  | @level w level levels found _ _ ih =>
    obtain ⟨hnodup, hnew⟩ := ih (hw.advance (hanswer level))
    rw [Walk.advance_eq w level _ fun b hb => (hanswer level b hb).2] at hnew
    have hlater : ∀ id ∈ levels.flatten, id ∉ w.visited ∧ id ∉ level := by
      intro id hid
      have hnot := hnew id hid
      rw [List.mem_append] at hnot
      exact not_or.mp hnot
    rw [List.flatten_cons]
    constructor
    · rw [List.nodup_append]
      refine ⟨hw.nodup, hnodup, ?_⟩
      intro a ha b hb hab
      subst hab
      exact (hlater a hb).2 ha
    · intro id hid
      rcases List.mem_append.mp hid with hid | hid
      · exact hw.fresh id hid
      · exact (hlater id hid).1

theorem Walks.contained (h : Walks answer w level levels found)
    (hanswer : ∀ ids, ∀ b ∈ answer ids, b ∈ table ∧ b.id ∈ ids)
    (hw : Contained table branches w level) :
    ∀ u ∈ found, ∃ id, Wanted table branches id ∧ Member table id u := by
  induction h with
  | done => exact hw.members
  | level _ _ ih => exact ih (hw.advance (hanswer _))

/-- With at least as many levels as a whole walk has, a bounded walk is that one. -/
theorem walkFrom_of_walks {m : Type → Type} [Monad m] [LawfulMonad m] {dir : Directory m}
    {note : List Int → m Unit} (hdir : Answers dir table note answer)
    (h : Walks answer w level levels found) {fuel : Nat} (hfuel : levels.length ≤ fuel) :
    walkFrom dir fuel w level = (do levels.forM note; pure found) := by
  induction h generalizing fuel with
  | done =>
    cases fuel with
    | zero => simp [walkFrom]
    | succ fuel => simp [walkFrom]
  | level hlevel _ ih =>
    cases fuel with
    | zero => simp at hfuel
    | succ fuel =>
      rw [List.length_cons] at hfuel
      have hrest := ih (Nat.le_of_succ_le_succ hfuel)
      simp [walkFrom, hlevel, hdir.branches, hrest]

/-- A walk over a finite table ends without being stopped. It asks for its levels one after the
other, for no branch twice, and returns no member but those of selected branches and of branches
below a flagged one. -/
theorem branchMembers_ends {m : Type → Type} [Monad m] [LawfulMonad m] {dir : Directory m}
    {table : List BranchDetails} {note : List Int → m Unit}
    {answer : List Int → List BranchDetails} (hdir : Answers dir table note answer)
    (branches : List SelectedItem) :
    ∃ levels found,
      Walks answer (.start branches) (sortedIds (selectedIds branches)) levels found ∧
      branchMembers dir branches = (do levels.forM note; pure found) ∧
      levels.length ≤ table.length + 1 ∧ levels.flatten.Nodup ∧
      ∀ u ∈ found, ∃ id, Wanted table branches id ∧ Member table id u := by
  have hstart := Contained.start table branches
  obtain ⟨levels, found, hwalks, hlevels⟩ := exists_walks hdir.asked hstart
  have hlength : levels.length ≤ table.length + 1 :=
    Nat.le_trans hlevels (Nat.succ_le_succ (List.length_filter_le _ _))
  obtain ⟨n, hbound, hn⟩ := hdir.branchBound
  refine ⟨levels, found, hwalks, ?_, hlength, (hwalks.requests hdir.asked hstart).1,
    hwalks.contained hdir.asked hstart⟩
  rw [branchMembers, hbound, pure_bind]
  exact walkFrom_of_walks hdir hwalks (by omega)

def noting {m : Type → Type} [Monad m] (dir : Directory m) :
    Directory (StateT (List (List Int)) m) where
  session := StateT.lift dir.session
  wordings keys lang := StateT.lift (dir.wordings keys lang)
  groups ids := StateT.lift (dir.groups ids)
  branches ids := do
    modify (· ++ [ids])
    StateT.lift (dir.branches ids)
  branchBound := StateT.lift dir.branchBound
  customFields e := StateT.lift (dir.customFields e)
  subordinates id types := StateT.lift (dir.subordinates id types)
  assignedUsers := StateT.lift dir.assignedUsers
  assignedCourses := StateT.lift dir.assignedCourses
  assignedPlans := StateT.lift dir.assignedPlans

/-- Three branches in a cycle, one of them its own child, with an unknown child and a branch that
is not selected. -/
def tangled : List BranchDetails := [
  { id := 1, children := [1, 2, 3], members := [10] },
  { id := 2, children := [3, 9], members := [20] },
  { id := 3, children := [1], members := [30] }, { id := 4, children := [1], members := [40] }]

def selectedTwice : List SelectedItem :=
  [{ id := 1 }, { id := 1, descendants := true }, { id := 5 }]

def tangledDirectory : Directory (StateT (List (List Int)) Outcome) :=
  noting (serving (Records.directory { session := { idUser := 1 } }) tangled)

theorem branchMembers_ends_tangled :
    ∃ answer, Answers tangledDirectory tangled (fun ids => modify (· ++ [ids])) answer ∧
      ∃ levels found,
        Walks answer (.start selectedTwice) (sortedIds (selectedIds selectedTwice)) levels found ∧
        branchMembers tangledDirectory selectedTwice =
          (do levels.forM fun ids => modify (· ++ [ids])
              pure found) ∧
        levels.length ≤ tangled.length + 1 ∧ levels.flatten.Nodup ∧
        ∀ u ∈ found, ∃ id, Wanted tangled selectedTwice id ∧ Member tangled id u := by
  have hanswers : Answers tangledDirectory tangled (fun ids => modify (· ++ [ids]))
      (fun ids => tangled.filter fun b => ids.contains b.id) :=
    ⟨fun _ => rfl, fun ids b hb => by simpa using hb, _, rfl, Nat.le_refl _⟩
  exact ⟨_, hanswers, branchMembers_ends hanswers selectedTwice⟩

example : (branchMembers tangledDirectory selectedTwice).run [] =
    .ok ([10, 20, 30], [[1, 5], [2, 3], [9]]) := rfl

end LearningReports.Selection
