import LearningReports.Proofs.Gathered

/-! # What filters admit

The own selection of a definition, narrowed by what the directory says of the caller. -/
namespace LearningReports

open MonadAttach (CanReturn)

namespace IdFilter

@[simp] theorem admits_unrestricted (id : Int) : admits .unrestricted id := trivial

@[simp] theorem admits_ofList {ids : List Int} {id : Int} : (ofList ids).admits id ↔ id ∈ ids :=
  mem_sortedIds

@[simp] theorem admits_intersect {f g : IdFilter} {id : Int} :
    (f.intersect g).admits id ↔ f.admits id ∧ g.admits id := by
  match f, g with
  | .unrestricted, g => simp
  | .only as, .unrestricted => simp
  | .only as, .only bs =>
    change (ofList (as.filter fun a => bs.contains a)).admits id ↔ id ∈ as ∧ id ∈ bs
    simp

theorem nothing_intersect (g : IdFilter) : nothing.intersect g = nothing := by
  cases g <;> rfl

end IdFilter

variable {m : Type → Type} [MonadAttach m]

/-- A filter that a definition makes by itself: everything when the filter is missing or asks for
all, else what it picks. -/
structure OwnSelection {F : Type} (filter : Option F) (all : F → Bool) (Picks : F → Int → Prop)
    (own : IdFilter) : Prop where
  whole : (∀ f ∈ filter, all f = true) → own = .unrestricted
  picked : ∀ f ∈ filter, all f = false → ∀ id, own.admits id ↔ Picks f id

/-- A filter intersected with the ids of an answer, exactly under a condition. -/
structure Narrowed (condition : Prop) (answer : m (List Int)) (own f : IdFilter) : Prop where
  narrowed : condition → ∃ ids, CanReturn answer ids ∧ f = own.intersect (.ofList ids) ∧
    ∀ id, f.admits id ↔ own.admits id ∧ id ∈ ids
  kept : ¬condition → f = own

namespace Narrowed

variable {condition : Prop} {answer : m (List Int)} {own f : IdFilter}

theorem of_answer {ids : List Int} (hc : condition) (hids : CanReturn answer ids)
    (hf : f = own.intersect (.ofList ids)) : Narrowed condition answer own f where
  narrowed _ := ⟨ids, hids, hf, fun id => by rw [hf]; simp⟩
  kept hno := absurd hc hno

theorem of_not (hc : ¬condition) (hf : f = own) : Narrowed condition answer own f where
  narrowed hyes := absurd hyes hc
  kept _ := hf

theorem nothing (h : Narrowed condition answer .nothing f) : f = .nothing := by
  by_cases hc : condition
  · obtain ⟨ids, -, rfl, -⟩ := h.narrowed hc
    exact IdFilter.nothing_intersect _
  · exact h.kept hc

end Narrowed

def Restricted (s : Session) (checkVisibility : Bool) : Prop :=
  s.isPowerUser = true ∧ checkVisibility = true

theorem isRestricted_iff {s : Session} {checkVisibility : Bool} :
    Selection.isRestricted s checkVisibility = true ↔ Restricted s checkVisibility := by
  unfold Selection.isRestricted Restricted
  rw [Bool.and_eq_true, and_comm]

def managerTypes (d : Definition) : List Int := (d.users.map (·.managerTypes)).getD []

/-- A user is picked directly, as a member of a picked group, or as one of those found through
branches. -/
def PicksUser (groups : List GroupDetails) (found : List Int) (f : UsersFilter) (id : Int) : Prop :=
  id ∈ selectedIds f.users ∨ (∃ g ∈ groups, id ∈ g.members) ∨ id ∈ found

variable [Monad m] [MonadExceptOf Failure m]

/-- The groups and the members of branches are answers to what the filter selects. -/
structure FoundUsers (dir : Directory m) (f : UsersFilter) (groups : List GroupDetails)
    (found : List Int) : Prop where
  groups : if f.groups = [] then groups = []
    else CanReturn (dir.groups (sortedIds (selectedIds f.groups))) groups
  branches : if f.branches = [] then found = []
    else CanReturn (Selection.branchMembers dir f.branches) found

/-- The users of a report: the own selection, the caller's subordinates when managers are asked for,
and the assigned users when the caller is restricted to them. -/
structure ResolvedUsers (dir : Directory m) (d : Definition) (s : Session) (checkVisibility : Bool)
    (own team f : IdFilter) : Prop where
  selected : ∃ groups found,
    (∀ u ∈ d.users, u.all = false → FoundUsers dir u groups found) ∧
      OwnSelection d.users (·.all) (PicksUser groups found) own
  onTeam : Narrowed (managerTypes d ≠ []) (dir.subordinates s.idUser (managerTypes d)) own team
  assigned : Narrowed (Restricted s checkVisibility) dir.assignedUsers team f

variable [LawfulService m]

theorem narrowed_of_restrict {s : Session} {checkVisibility : Bool} {answer : m (List Int)}
    {own f : IdFilter}
    (h : CanReturn (Selection.restrict own (Selection.isRestricted s checkVisibility) answer) f) :
    Narrowed (Restricted s checkVisibility) answer own f := by
  rw [← isRestricted_iff]
  unfold Selection.restrict at h
  split at h
  · next hr =>
    obtain ⟨ids, hids, h⟩ := Returns.of_bind h
    exact .of_answer hr hids (Returns.of_pure h)
  · next hr => exact .of_not hr (Returns.of_pure h)

theorem narrowed_of_onTeam {dir : Directory m} {d : Definition} {s : Session} {own f : IdFilter}
    (h : CanReturn (Selection.onTeam dir d s own) f) :
    Narrowed (managerTypes d ≠ []) (dir.subordinates s.idUser (managerTypes d)) own f := by
  unfold Selection.onTeam at h
  rw [← managerTypes] at h
  cases htypes : managerTypes d with
  | nil =>
    rw [htypes] at h
    exact .of_not (fun hno => hno rfl) (Returns.of_pure h)
  | cons t ts =>
    rw [htypes] at h
    obtain ⟨ids, hids, h⟩ := Returns.of_bind h
    exact .of_answer (List.cons_ne_nil t ts) hids (Returns.of_pure h)

theorem ownSelection_ofItems {F : Type} (filter : Option F) (all : F → Bool)
    (items : F → List SelectedItem) :
    OwnSelection filter all (fun f id => id ∈ selectedIds (items f))
      ((filter.map fun f => Selection.ofItems (all f) (items f)).getD .unrestricted) where
  whole h := by
    cases filter with
    | none => rfl
    | some f => simp [Selection.ofItems, h f rfl]
  picked f hf hall id := by
    cases hf
    simp [Selection.ofItems, hall]

theorem ownSelection_pickedCourses (d : Definition) :
    OwnSelection d.courses (·.all) (fun c id => id ∈ selectedIds c.courses)
      (Selection.pickedCourses d) := by
  have h := ownSelection_ofItems d.courses (·.all) (·.courses)
  unfold Selection.pickedCourses
  cases hc : d.courses <;> rw [hc] at h <;> exact h

theorem ownSelection_pickedEntities (filter : Option EntityFilter) :
    OwnSelection filter (·.all) (fun f id => id ∈ selectedIds f.items)
      (Selection.pickedEntities filter) := by
  have h := ownSelection_ofItems filter (·.all) (·.items)
  cases filter <;> exact h

theorem groups_of_groupMembers {dir : Directory m} {selected : List SelectedItem}
    {members : List Int} (h : CanReturn (Selection.groupMembers dir selected) members) :
    ∃ groups, (if selected = [] then groups = []
        else CanReturn (dir.groups (sortedIds (selectedIds selected))) groups) ∧
      members = groups.flatMap (·.members) := by
  unfold Selection.groupMembers at h
  simp only [List.isEmpty_iff] at h
  split at h
  · next hempty => exact ⟨[], by rw [if_pos hempty], Returns.of_pure h⟩
  · next hne =>
    obtain ⟨groups, hanswer, h⟩ := Returns.of_bind h
    exact ⟨groups, by rw [if_neg hne]; exact hanswer, Returns.of_pure h⟩

theorem picksUser_iff {f : UsersFilter} {groups : List GroupDetails} {found : List Int} {id : Int} :
    (IdFilter.ofList (selectedIds f.users ++ groups.flatMap (·.members) ++ found)).admits id ↔
      PicksUser groups found f id := by
  simp only [IdFilter.admits_ofList, List.mem_append, List.mem_flatMap, PicksUser, or_assoc]

theorem ownSelection_of_pickedUsers {dir : Directory m} {d : Definition} {own : IdFilter}
    (h : CanReturn (Selection.pickedUsers dir d) own) :
    ∃ groups found, (∀ u ∈ d.users, u.all = false → FoundUsers dir u groups found) ∧
      OwnSelection d.users (·.all) (PicksUser groups found) own := by
  unfold Selection.pickedUsers at h
  cases hu : d.users with
  | none =>
    rw [hu] at h
    exact ⟨[], [], nofun, fun _ => Returns.of_pure h, nofun⟩
  | some f =>
    rw [hu] at h
    dsimp only at h
    split at h
    · next hall =>
      have hno : ∀ u ∈ some f, u.all ≠ false := by
        rintro u ⟨⟩
        simp [hall]
      exact ⟨[], [], fun u hu hf => absurd hf (hno u hu), fun _ => Returns.of_pure h,
        fun u hu hf => absurd hf (hno u hu)⟩
    · next hall =>
      obtain ⟨members, hmembers, h⟩ := Returns.of_bind h
      obtain ⟨groups, hgroups, rfl⟩ := groups_of_groupMembers hmembers
      have hbranches : ∃ found, (if f.branches = [] then found = []
          else CanReturn (Selection.branchMembers dir f.branches) found) ∧
          own = .ofList (selectedIds f.users ++ groups.flatMap (·.members) ++ found) := by
        simp only [List.isEmpty_iff] at h
        split at h
        · next hempty =>
          obtain ⟨found, hfound, h⟩ := Returns.of_bind h
          exact ⟨found, by rw [if_pos hempty]; exact Returns.of_pure hfound, Returns.of_pure h⟩
        · next hne =>
          obtain ⟨found, hfound, h⟩ := Returns.of_bind h
          exact ⟨found, by rw [if_neg hne]; exact hfound, Returns.of_pure h⟩
      obtain ⟨found, hfound, rfl⟩ := hbranches
      refine ⟨groups, found, ?_, fun hwhole => absurd (hwhole f rfl) hall, ?_⟩
      · rintro u ⟨⟩ -
        exact ⟨hgroups, hfound⟩
      · rintro u ⟨⟩ - id
        exact picksUser_iff

theorem resolvedUsers_of_users {dir : Directory m} {d : Definition} {s : Session}
    {checkVisibility : Bool} {f : IdFilter}
    (h : CanReturn (Selection.users dir d s checkVisibility) f) :
    ∃ own team, ResolvedUsers dir d s checkVisibility own team f := by
  obtain ⟨own, hown, h⟩ := Returns.of_bind h
  obtain ⟨team, hteam, h⟩ := Returns.of_bind h
  exact ⟨own, team, ownSelection_of_pickedUsers hown, narrowed_of_onTeam hteam,
    narrowed_of_restrict h⟩

end LearningReports
