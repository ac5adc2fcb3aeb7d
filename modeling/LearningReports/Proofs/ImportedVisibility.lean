import LearningReports.Proofs.ImportedDefinitions
import Mathlib.Data.List.Forall2

/-! # Imported visibility

A legacy report is shared by rules, each for one member and one report. An import looks at the rules
of its own report only, and takes from them the users, the groups and the branches with whom the
report is shared, in order. The rules of other reports may be malformed and make no difference. -/
namespace LearningReports.Legacy

/-- The item is the member that a rule names. Where members have descendants, the state of the rule
says whether they are included. -/
def Names (hasDescendants : Bool) (rule : VisibilityRule) (item : SelectedItem) : Prop :=
  ∃ n, Json.toInteger (.str rule.memberId) = .ok n ∧
    item = { id := n, descendants := hasDescendants && rule.selectState == "2" }

/-- The items are the members of one kind that rules name, in the order of the rules. -/
def NamesAll (kind : String) (hasDescendants : Bool) (rules : List VisibilityRule)
    (items : List SelectedItem) : Prop :=
  List.Forall₂ (Names hasDescendants) (rules.filter (·.memberType == kind)) items

/-- The members with whom rules share a report. -/
structure SharedBy (rules : List VisibilityRule) (users groups branches : List SelectedItem) :
    Prop where
  users : NamesAll "user" false rules users
  groups : NamesAll "group" false rules groups
  branches : NamesAll "branch" true rules branches

theorem sharedBy_nil : SharedBy [] [] [] [] := ⟨.nil, .nil, .nil⟩

section Rules

variable {kind : String} {rule : VisibilityRule} {rules : List VisibilityRule}
  {items : List SelectedItem} {item : SelectedItem} {hasDescendants : Bool} {v v' : Visibility}

theorem NamesAll.cons (h : NamesAll kind hasDescendants rules items) (hkind : rule.memberType = kind)
    (hitem : Names hasDescendants rule item) :
    NamesAll kind hasDescendants (rule :: rules) (item :: items) := by
  rw [NamesAll, List.filter_cons_of_pos (by simpa using hkind)]
  exact List.Forall₂.cons hitem h

theorem NamesAll.skip (h : NamesAll kind hasDescendants rules items)
    (hkind : rule.memberType ≠ kind) : NamesAll kind hasDescendants (rule :: rules) items := by
  rw [NamesAll, List.filter_cons_of_neg (by simpa using hkind)]
  exact h

/-- What a rule adds to a visibility stands in front of what the rules after it add. -/
theorem sharedBy_addRule (h : addRule v rule = .ok v') {users groups branches : List SelectedItem}
    (hrest : SharedBy rules users groups branches) :
    ∃ users' groups' branches', SharedBy (rule :: rules) users' groups' branches' ∧
      v'.users ++ users = v.users ++ users' ∧ v'.groups ++ groups = v.groups ++ groups' ∧
      v'.branches ++ branches = v.branches ++ branches' ∧ v'.audience = v.audience := by
  obtain ⟨n, hn, h⟩ := Returns.of_bind (m := Outcome) h
  by_cases huser : rule.memberType = "user"
  · rw [if_pos huser] at h
    cases h
    have hshared : SharedBy (rule :: rules) ({ id := n } :: users) groups branches :=
      ⟨hrest.users.cons huser ⟨n, hn, rfl⟩, hrest.groups.skip (by simp [huser]),
        hrest.branches.skip (by simp [huser])⟩
    exact ⟨_, _, _, hshared, List.append_assoc .., rfl, rfl, rfl⟩
  rw [if_neg huser] at h
  by_cases hgroup : rule.memberType = "group"
  · rw [if_pos hgroup] at h
    cases h
    have hshared : SharedBy (rule :: rules) users ({ id := n } :: groups) branches :=
      ⟨hrest.users.skip huser, hrest.groups.cons hgroup ⟨n, hn, rfl⟩,
        hrest.branches.skip (by simp [hgroup])⟩
    exact ⟨_, _, _, hshared, rfl, List.append_assoc .., rfl, rfl⟩
  rw [if_neg hgroup] at h
  by_cases hbranch : rule.memberType = "branch"
  · rw [if_pos hbranch] at h
    cases h
    have hshared : SharedBy (rule :: rules) users groups
        ({ id := n, descendants := rule.selectState == "2" } :: branches) :=
      ⟨hrest.users.skip huser, hrest.groups.skip hgroup,
        hrest.branches.cons hbranch ⟨n, hn, rfl⟩⟩
    exact ⟨_, _, _, hshared, rfl, rfl, List.append_assoc .., rfl⟩
  rw [if_neg hbranch] at h
  cases h
  exact ⟨_, _, _, ⟨hrest.users.skip huser, hrest.groups.skip hgroup, hrest.branches.skip hbranch⟩,
    rfl, rfl, rfl, rfl⟩

theorem sharedBy_foldlM (h : rules.foldlM addRule v = .ok v') :
    ∃ users groups branches, SharedBy rules users groups branches ∧
      v'.users = v.users ++ users ∧ v'.groups = v.groups ++ groups ∧
      v'.branches = v.branches ++ branches ∧ v'.audience = v.audience := by
  induction rules generalizing v with
  | nil =>
    cases h
    exact ⟨[], [], [], sharedBy_nil, by simp, by simp, by simp, rfl⟩
  | cons rule rules ih =>
    rw [List.foldlM_cons] at h
    obtain ⟨next, hnext, h⟩ := Returns.of_bind (m := Outcome) h
    obtain ⟨users, groups, branches, hrest, hu, hg, hb, ha⟩ := ih h
    obtain ⟨users', groups', branches', hshared, hu', hg', hb', ha'⟩ :=
      sharedBy_addRule hnext hrest
    exact ⟨users', groups', branches', hshared, hu.trans hu', hg.trans hg', hb.trans hb',
      ha.trans ha'⟩

end Rules

section Reports

variable {r : Report} {s : Session} {stamp : Stamp} {t : ReportType} {platform : String}
  {rules rules' : List VisibilityRule} {room : Room} {v : Visibility} {d d' : Definition}

/-- A report that is shared by selection is shared by its own rules, any other by none. -/
theorem sharedBy_visibility (h : visibility r rules = .ok v) :
    v.audience = some (audience r.visibility) ∧
      SharedBy (if r.visibility = "selection" then rulesOf r rules else []) v.users v.groups
        v.branches := by
  have hselected : audience r.visibility = .selectedPowerUsers ↔ r.visibility = "selection" := by
    unfold audience
    split_ifs <;> simp_all
  unfold visibility at h
  dsimp only at h
  by_cases hselection : r.visibility = "selection"
  · rw [if_pos (hselected.mpr hselection)] at h
    obtain ⟨users, groups, branches, hshared, hu, hg, hb, ha⟩ := sharedBy_foldlM h
    rw [hu, hg, hb, ha, if_pos hselection]
    exact ⟨rfl, hshared⟩
  · rw [if_neg (mt hselected.mp hselection)] at h
    cases h
    rw [if_neg hselection]
    exact ⟨rfl, sharedBy_nil⟩

theorem visibility_congr (h : rulesOf r rules = rulesOf r rules') :
    visibility r rules = visibility r rules' := by
  unfold visibility
  rw [h]

theorem visibility_of_withHead (h : withHead r platform rules d = .ok d') :
    visibility r rules = .ok d'.visibility := by
  obtain ⟨v, hv, h⟩ := Returns.of_bind (m := Outcome) h
  split at h
  · cases h
    exact hv
  · cases h
    exact hv

theorem visibility_withFilters {data : Json} {map : List (String × FieldMap)}
    (h : withFilters room data map d = .ok d') : d'.visibility = d.visibility := by
  obtain ⟨_, _, _, _, _, -, hselections, hdates, hconditions, hstatus, hfields⟩ :=
    steps_of_withFilters h
  obtain ⟨_, _, _, rfl⟩ := eq_of_withSelections hselections
  obtain ⟨_, _, _, _, rfl⟩ := eq_of_withDates hdates
  obtain ⟨_, rfl⟩ := eq_of_withConditions hconditions
  obtain ⟨_, rfl⟩ := eq_of_withStatus hstatus
  obtain ⟨_, _, rfl⟩ := eq_of_withFields hfields
  rfl

/-- An import comes out the same for all rules that are the same for its own report. A report that
is shared by selection is shared with the members that these rules name, any other with no one in
particular. -/
theorem parse_heeds_own_rules :
    (∀ rules', rules.filter (·.idReport == r.idFilter) = rules'.filter (·.idReport == r.idFilter) →
      parse s stamp t r platform rules room = parse s stamp t r platform rules' room) ∧
    ∀ d, parse s stamp t r platform rules room = .ok d →
      (r.visibility = "selection" → SharedBy (rules.filter (·.idReport == r.idFilter))
        d.visibility.users d.visibility.groups d.visibility.branches) ∧
      (r.visibility ≠ "selection" → d.visibility.users = [] ∧ d.visibility.groups = [] ∧
        d.visibility.branches = []) := by
  constructor
  · intro rules' hrules
    have hhead (d : Definition) : withHead r platform rules d = withHead r platform rules' d := by
      unfold withHead
      rw [visibility_congr hrules]
    unfold parse
    simp only [hhead]
  · intro d h
    obtain ⟨map, data, title, description, author, home, timezone, headed, -, -, hheaded, h⟩ :=
      steps_of_parse h
    obtain ⟨-, hshared⟩ := sharedBy_visibility (visibility_of_withHead hheaded)
    rw [← visibility_withFilters h] at hshared
    constructor
    · intro hselection
      rwa [if_pos hselection] at hshared
    · intro hselection
      rw [if_neg hselection] at hshared
      exact ⟨List.forall₂_nil_left_iff.mp hshared.users,
        List.forall₂_nil_left_iff.mp hshared.groups,
        List.forall₂_nil_left_iff.mp hshared.branches⟩

end Reports

def shared : Report :=
  { idFilter := "5", typeId := "1", author := "", visibility := "selection"
    data := .members [("filters", .obj [("a", .int 1)])] }

def ownRules : List VisibilityRule :=
  [{ idReport := "5", memberType := "branch", memberId := "7", selectState := "2" },
    { idReport := "5", memberType := "user", memberId := " 8 " }]

def mixedRules : List VisibilityRule :=
  { idReport := "6", memberType := "user", memberId := "nobody" } :: ownRules ++
    [{ idReport := "05", memberType := "planet", memberId := "", selectState := "2" }]

theorem parse_heeds_own_rules_mixed :
    ∃ d, ownRules.filter (·.idReport == shared.idFilter) =
        mixedRules.filter (·.idReport == shared.idFilter) ∧
      shared.visibility = "selection" ∧
      parse { idUser := 1 } ⟨"", ""⟩ .usersCourses shared "" ownRules = .ok d ∧
      parse { idUser := 1 } ⟨"", ""⟩ .usersCourses shared "" mixedRules = .ok d ∧
      SharedBy ownRules d.visibility.users d.visibility.groups d.visibility.branches ∧
      d.visibility.users = [{ id := 8 }] ∧
      d.visibility.branches = [{ id := 7, descendants := true }] := by
  obtain ⟨d, hd⟩ : ∃ d, parse { idUser := 1 } ⟨"", ""⟩ .usersCourses shared "" ownRules = .ok d :=
    ⟨_, rfl⟩
  have hrules : ownRules.filter (·.idReport == shared.idFilter) =
      mixedRules.filter (·.idReport == shared.idFilter) := by decide
  obtain ⟨hsame, hshared⟩ :=
    @parse_heeds_own_rules shared { idUser := 1 } ⟨"", ""⟩ .usersCourses "" ownRules {}
  have hselected := (hshared d hd).1 rfl
  have hmixed := (hsame mixedRules hrules).symm.trans hd
  cases hd
  exact ⟨_, hrules, rfl, rfl, hmixed, hselected, rfl, rfl⟩

end LearningReports.Legacy
