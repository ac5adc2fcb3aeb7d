import LearningReports.Proofs.CallerRestrictions
import LearningReports.Proofs.Lockstep
import LearningReports.Proofs.Resolution
import Mathlib.Data.List.Sort

/-! # Unassigned users

What a power user gets does not depend on users who are not assigned to them. Two directories that
differ only in such users lead to filters that admit the same assigned users, and after the last
intersection the filters are the same. -/
namespace LearningReports

open MonadAttach (CanReturn)

/-! ## Lists of ids -/

theorem sortedIds_congr {as bs : List Int} (h : ∀ id, id ∈ as ↔ id ∈ bs) :
    sortedIds as = sortedIds bs :=
  (pairwise_sortedIds as).eq_of_mem_iff (pairwise_sortedIds bs) fun id => by
    rw [mem_sortedIds, mem_sortedIds, h]

/-- The lists have the same of the ids that count. -/
def AgreeOn (counts : Int → Prop) (as bs : List Int) : Prop := ∀ id, counts id → (id ∈ as ↔ id ∈ bs)

section Agreement

variable {counts : Int → Prop}

theorem AgreeOn.refl (as : List Int) : AgreeOn counts as as := fun _ _ => Iff.rfl

theorem AgreeOn.append {as bs cs ds : List Int} (h : AgreeOn counts as bs)
    (h' : AgreeOn counts cs ds) : AgreeOn counts (as ++ cs) (bs ++ ds) := by
  intro id hid
  rw [List.mem_append, List.mem_append, h id hid, h' id hid]

structure GroupDetails.Agree (counts : Int → Prop) (g g' : GroupDetails) : Prop where
  id : g.id = g'.id
  members : AgreeOn counts g.members g'.members

structure BranchDetails.Agree (counts : Int → Prop) (b b' : BranchDetails) : Prop where
  id : b.id = b'.id
  children : b.children = b'.children
  members : AgreeOn counts b.members b'.members

theorem agreeOn_members {gs gs' : List GroupDetails}
    (h : List.Forall₂ (GroupDetails.Agree counts) gs gs') :
    AgreeOn counts (gs.flatMap (·.members)) (gs'.flatMap (·.members)) := by
  induction h with
  | nil => exact .refl _
  | cons hg _ ih =>
    rw [List.flatMap_cons, List.flatMap_cons]
    exact hg.members.append ih

/-- The filters admit the same of the ids that count. -/
def IdFilter.AgreeOn (counts : Int → Prop) (f g : IdFilter) : Prop :=
  ∀ id, counts id → (f.admits id ↔ g.admits id)

theorem IdFilter.AgreeOn.ofList {as bs : List Int} (h : LearningReports.AgreeOn counts as bs) :
    IdFilter.AgreeOn counts (.ofList as) (.ofList bs) := by
  intro id hid
  rw [admits_ofList, admits_ofList, h id hid]

theorem IdFilter.AgreeOn.intersect {f f' g g' : IdFilter} (h : IdFilter.AgreeOn counts f f')
    (h' : IdFilter.AgreeOn counts g g') :
    IdFilter.AgreeOn counts (f.intersect g) (f'.intersect g') := by
  intro id hid
  rw [admits_intersect, admits_intersect, h id hid, h' id hid]

/-- Intersected with ids that all count, filters that agree are the same. -/
theorem IdFilter.AgreeOn.intersect_eq {f g : IdFilter} (h : IdFilter.AgreeOn counts f g)
    {ids : List Int} (hids : ∀ id ∈ ids, counts id) :
    f.intersect (.ofList ids) = g.intersect (.ofList ids) := by
  have hlist (f : IdFilter) : ∃ ns, f.intersect (.ofList ids) = .ofList ns := by
    cases f with
    | unrestricted => exact ⟨ids, rfl⟩
    | only as => exact ⟨_, rfl⟩
  obtain ⟨ms, hms⟩ := hlist f
  obtain ⟨ns, hns⟩ := hlist g
  rw [hms, hns, IdFilter.ofList, IdFilter.ofList, sortedIds_congr fun id => ?_]
  rw [← admits_ofList, ← admits_ofList, ← hms, ← hns, admits_intersect, admits_intersect]
  exact and_congr_left fun hid => h id (hids id (admits_ofList.mp hid))

/-! ## The walk through branches -/

namespace Selection

/-- The walks have come equally far and have found the same members that count. -/
structure Walk.Agree (counts : Int → Prop) (w w' : Walk) : Prop where
  visited : w.visited = w'.visited
  expanding : w.expanding = w'.expanding
  next : w.next = w'.next
  members : AgreeOn counts w.members w'.members

theorem Walk.Agree.step {w w' : Walk} {b b' : BranchDetails} (hw : w.Agree counts w')
    (hb : b.Agree counts b') : (w.step b).Agree counts (w'.step b') := by
  obtain ⟨visited, expanding, members, next⟩ := w
  obtain ⟨visited', expanding', members', next'⟩ := w'
  obtain ⟨rfl, rfl, rfl, hmembers⟩ := hw
  obtain ⟨hid, hchildren, hfound⟩ := hb
  unfold Walk.step
  dsimp only
  rw [← hid, ← hchildren]
  split
  · exact ⟨rfl, rfl, rfl, hmembers.append hfound⟩
  · exact ⟨rfl, rfl, rfl, hmembers.append hfound⟩

theorem Walk.Agree.advance {w w' : Walk} {found found' : List BranchDetails}
    (hw : w.Agree counts w') (level : List Int)
    (hfound : List.Forall₂ (BranchDetails.Agree counts) found found') :
    (w.advance level found).Agree counts (w'.advance level found') := by
  have hfold : ∀ w w' : Walk, w.Agree counts w' →
      (found.foldl Walk.step w).Agree counts (found'.foldl Walk.step w') := by
    induction hfound with
    | nil => exact fun _ _ hw => hw
    | cons hb _ ih => exact fun _ _ hw => ih _ _ (hw.step hb)
  refine hfold _ _ ⟨?_, hw.expanding, rfl, hw.members⟩
  exact congrArg (· ++ level) hw.visited

end Selection
end Agreement

/-! ## Two directories -/

section Service

variable {m : Type → Type} [Monad m] [MonadExceptOf Failure m] [MonadAttach m]

/-- The user can be among the assigned users of an answer. -/
def Directory.Assigns (dir : Directory m) (id : Int) : Prop :=
  ∃ ids, CanReturn dir.assignedUsers ids ∧ id ∈ ids

/-- The directories differ only in the users, not assigned to the caller, whom they count among the
members of groups and branches and among the subordinates of the caller. -/
structure Directory.AgreeOnAssigned (caller : Int) (dir dir' : Directory m) : Prop where
  others : dir' =
    { dir with groups := dir'.groups, branches := dir'.branches, subordinates := dir'.subordinates }
  groups : ∀ ids, Together (dir.groups ids) (dir'.groups ids)
    (List.Forall₂ (GroupDetails.Agree dir.Assigns))
  branches : ∀ ids, Together (dir.branches ids) (dir'.branches ids)
    (List.Forall₂ (BranchDetails.Agree dir.Assigns))
  subordinates : ∀ types, Together (dir.subordinates caller types) (dir'.subordinates caller types)
    (AgreeOn dir.Assigns)

variable [LawfulService m] {dir dir' : Directory m} {d : Definition} {s : Session}

namespace Selection

theorem together_walkFrom {counts : Int → Prop}
    (hbranches : ∀ ids, Together (dir.branches ids) (dir'.branches ids)
      (List.Forall₂ (BranchDetails.Agree counts)))
    (fuel : Nat) {w w' : Walk} (hw : w.Agree counts w') (level : List Int) :
    Together (walkFrom dir fuel w level) (walkFrom dir' fuel w' level) (AgreeOn counts) := by
  induction fuel generalizing w w' level with
  | zero => exact .pure hw.members
  | succ fuel ih =>
    unfold walkFrom
    split
    · exact .pure hw.members
    · refine (hbranches level).bind fun found found' hfound => ?_
      have hnext := hw.advance level hfound
      dsimp only
      rw [hnext.next]
      exact ih hnext _

variable {caller : Int} (h : dir.AgreeOnAssigned caller dir')
include h

theorem together_branchMembers (branches : List SelectedItem) :
    Together (branchMembers dir branches) (branchMembers dir' branches) (AgreeOn dir.Assigns) := by
  have hbound : dir'.branchBound = dir.branchBound := by
    rw [h.others]
  unfold branchMembers
  rw [hbound]
  refine (Together.refl dir.branchBound (R := Eq) fun _ _ => rfl).bind ?_
  rintro bound _ rfl
  exact together_walkFrom h.branches _ ⟨rfl, rfl, rfl, .refl _⟩ _

theorem together_groupMembers (groups : List SelectedItem) :
    Together (groupMembers dir groups) (groupMembers dir' groups) (AgreeOn dir.Assigns) := by
  unfold groupMembers
  split
  · exact .pure (.refl _)
  · exact (h.groups _).bind fun gs gs' hgs => .pure (agreeOn_members hgs)

theorem together_pickedUsers :
    Together (pickedUsers dir d) (pickedUsers dir' d) (IdFilter.AgreeOn dir.Assigns) := by
  have hunrestricted : IdFilter.AgreeOn dir.Assigns .unrestricted .unrestricted :=
    fun _ _ => Iff.rfl
  unfold pickedUsers
  split
  · exact .pure hunrestricted
  · next f _ =>
    split
    · exact .pure hunrestricted
    · refine (together_groupMembers h f.groups).bind fun through through' hgroups => ?_
      have hpicked {found found' : List Int} (hfound : AgreeOn dir.Assigns found found') :
          IdFilter.AgreeOn dir.Assigns (.ofList (selectedIds f.users ++ through ++ found))
            (.ofList (selectedIds f.users ++ through' ++ found')) :=
        IdFilter.AgreeOn.ofList (((AgreeOn.refl _).append hgroups).append hfound)
      dsimp only
      split
      · rw [pure_bind, pure_bind]
        exact .pure (hpicked (.refl _))
      · exact (together_branchMembers h f.branches).bind fun found found' hfound =>
          .pure (hpicked hfound)

omit h in
theorem together_onTeam (h : dir.AgreeOnAssigned s.idUser dir') {f f' : IdFilter}
    (hf : IdFilter.AgreeOn dir.Assigns f f') :
    Together (onTeam dir d s f) (onTeam dir' d s f') (IdFilter.AgreeOn dir.Assigns) := by
  unfold onTeam
  split
  · exact .pure hf
  · exact (h.subordinates _).bind fun ids ids' hids => .pure (hf.intersect (.ofList hids))

omit h in
/-- The users of a power user's report are the same. -/
theorem users_eq (h : dir.AgreeOnAssigned s.idUser dir') {checkVisibility : Bool}
    (hs : isRestricted s checkVisibility = true) :
    users dir d s checkVisibility = users dir' d s checkVisibility := by
  have hassigned : dir'.assignedUsers = dir.assignedUsers := by
    rw [h.others]
  unfold users
  refine ((together_pickedUsers h).bind fun picked picked' hpicked => ?_).eq
  refine (together_onTeam h hpicked).bind fun team team' hteam => ?_
  rw [hassigned, restrict, restrict, if_pos hs, if_pos hs, ← map_eq_pure_bind, ← map_eq_pure_bind]
  refine .of_map _ fun ids hids => ?_
  exact hteam.intersect_eq fun id hid => ⟨ids, hids, hid⟩

end Selection

theorem Gather.filtersOf_eq (h : dir.AgreeOnAssigned s.idUser dir') {checkVisibility : Bool}
    (hs : Selection.isRestricted s checkVisibility = true) :
    filtersOf dir d s checkVisibility = filtersOf dir' d s checkVisibility := by
  funext done k
  cases k with
  | users => rw [filtersOf, filtersOf, Selection.users_eq h hs]
  | _ =>
    rw [h.others]
    rfl

/-- A report of a power user who sees only what was assigned to them is compiled to the same. -/
theorem compile_hides_unassigned {w : Warehouse} {engine : Sql.Dialect} {o : CompileOptions}
    (h : dir.AgreeOnAssigned s.idUser dir') (hs : s.level = .powerUser)
    (ho : o.checkVisibility = true) :
    Report.compile dir w d s engine o = Report.compile dir' w d s engine o := by
  have hrestricted : Selection.isRestricted s o.checkVisibility = true := by
    rw [isRestricted_iff]
    exact ⟨by rw [Session.isPowerUser, hs]; rfl, ho⟩
  have hfilters : Gather.filters dir d s o.checkVisibility =
      Gather.filters dir' d s o.checkVisibility := by
    rw [Gather.filters, Gather.filters, Gather.filtersOf_eq h hrestricted]
  have hfields : dir.customFields = dir'.customFields := by
    rw [h.others]
  have hcustom (labels : CustomFields.Labels) :
      CustomFields.resolve dir w d.fields d.type.entities labels =
        CustomFields.resolve dir' w d.fields d.type.entities labels :=
    CustomFields.resolve_congr fun e _ => congrFun hfields e
  unfold Report.compile Gather.context
  simp only [hfilters, hcustom]
  rw [h.others]
  rfl

end Service

def grouping (members : List Int) : Directory Outcome :=
  { assigning with groups := fun ids => .ok (ids.map fun id => { id := id, members := members }) }

theorem agreeOnAssigned_grouping :
    (grouping [1, 9]).AgreeOnAssigned assigned.idUser (grouping [1]) where
  others := rfl
  groups ids := by
    refine .pure ?_
    simp only [List.forall₂_map_left_iff, List.forall₂_map_right_iff]
    refine List.forall₂_same.mpr fun id _ => ⟨rfl, fun user huser => ?_⟩
    obtain ⟨users, husers, hmem⟩ := huser
    have hanswer : users = [1, 2] := (Except.ok.inj husers).symm
    subst hanswer
    have hcases : user = 1 ∨ user = 2 := by simpa using hmem
    change user ∈ [1, 9] ↔ user ∈ [1]
    rcases hcases with rfl | rfl <;> decide
  branches ids := .refl _ fun found _ =>
    List.forall₂_same.mpr fun b _ => ⟨rfl, rfl, .refl _⟩
  subordinates types := .refl _ fun ids _ => .refl _

def onGroup : Definition :=
  { idReport := "", type := .usersCourses, users := some { all := false, groups := [{ id := 4 }] } }

theorem compile_hides_unassigned_group :
    (grouping [1, 9]).AgreeOnAssigned assigned.idUser (grouping [1]) ∧
      assigned.level = .powerUser ∧
      (∃ r, Report.compile (grouping [1]) .complete onGroup assigned .athena {} = .ok r) ∧
      Report.compile (grouping [1, 9]) .complete onGroup assigned .athena {} =
        Report.compile (grouping [1]) .complete onGroup assigned .athena {} :=
  ⟨agreeOnAssigned_grouping, rfl, ⟨_, rfl⟩,
    compile_hides_unassigned agreeOnAssigned_grouping rfl rfl⟩

end LearningReports
