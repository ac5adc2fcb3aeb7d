import LearningReports.Definition.Default
import LearningReports.Proofs.CallerRestrictions
import Mathlib.Data.List.Infix

/-! # Filters that admit nothing

A filter that neither asks for all nor picks anything admits nothing. A type of report fails closed
on a kind of filter when such a filter leaves no branch of any of its reports with a row. -/
namespace LearningReports

open MonadAttach (CanReturn)
open Sql (Expr)
open Text (Occurs)

/-! ## Offered filters -/

def Definition.hasFilter (d : Definition) : FilterKind → Bool
  | .users => d.users.isSome
  | .courses => d.courses.isSome
  | .plans => d.learningPlans.isSome
  | .sessions => d.sessions.isSome
  | .surveys => d.surveys.isSome
  | .assets => d.assets.isSome

/-- Some new definition of the type has a filter of the kind. -/
def Offers (t : ReportType) (k : FilterKind) : Prop :=
  ∃ s stamp report d, Definition.default t s stamp report = .valid d ∧ d.hasFilter k = true

/-- Every offered kind is resolved, but for the plans of reports on users and courses. -/
theorem offers_cases {t : ReportType} {k : FilterKind} (h : Offers t k) :
    k ∈ t.filterKinds ∨ t = .usersCourses ∧ k = .plans := by
  obtain ⟨s, stamp, report, d, hd, hk⟩ := h
  obtain ⟨title, description, author, platform, timezone, rfl⟩ := new_of_default hd
  cases t <;> cases k <;>
    simp_all [Definition.new, Definition.withDefaultFilters, Definition.hasFilter,
      ReportType.filterKinds]

/-! ## Empty filters -/

/-- The filter of the kind neither asks for all nor picks anything. -/
def EmptyFilter (d : Definition) : FilterKind → Prop
  | .users => ∃ f ∈ d.users, f.all = false ∧ f.users = [] ∧ f.groups = [] ∧ f.branches = []
  | .courses => ∃ f ∈ d.courses, f.all = false ∧ f.courses = []
  | .plans => ∃ f ∈ d.learningPlans, f.all = false ∧ f.items = []
  | .sessions => ∃ f ∈ d.sessions, f.all = false ∧ f.items = []
  | .surveys => ∃ f ∈ d.surveys, f.all = false ∧ f.items = []
  | .assets => ∃ f ∈ d.assets, f.all = false ∧ f.assets = [] ∧ f.channels = []

theorem IdFilter.eq_nothing {f : IdFilter} (h : ∀ id, ¬f.admits id) : f = .nothing := by
  match f with
  | .unrestricted => exact absurd trivial (h 0)
  | .only [] => rfl
  | .only (n :: ns) => exact absurd (.head _) (h n)

theorem OwnSelection.eq_nothing {F : Type} {filter : Option F} {all : F → Bool}
    {Picks : F → Int → Prop} {own : IdFilter} (h : OwnSelection filter all Picks own) {f : F}
    (hf : f ∈ filter) (hall : all f = false) (hno : ∀ id, ¬Picks f id) : own = .nothing :=
  IdFilter.eq_nothing fun id hid => hno id ((h.picked f hf hall id).mp hid)

section Resolution

variable {m : Type → Type} [Monad m] [MonadExceptOf Failure m] [MonadAttach m] [LawfulService m]
variable {dir : Directory m} {d : Definition} {s : Session} {checkVisibility : Bool}

theorem users_eq_nothing {f : IdFilter} (h : CanReturn (Selection.users dir d s checkVisibility) f)
    (hempty : EmptyFilter d .users) : f = .nothing := by
  obtain ⟨u, hu, hall, husers, hgroups, hbranches⟩ := hempty
  obtain ⟨own, team, hresolved⟩ := resolvedUsers_of_users h
  obtain ⟨groups, found, hfound, hown⟩ := hresolved.selected
  have hanswers := hfound u hu hall
  have hno : groups = [] ∧ found = [] := by
    have hg := hanswers.groups
    have hb := hanswers.branches
    rw [if_pos hgroups] at hg
    rw [if_pos hbranches] at hb
    exact ⟨hg, hb⟩
  have hnothing : own = .nothing := hown.eq_nothing hu hall fun id => by
    simp [PicksUser, husers, hno.1, hno.2, selectedIds]
  subst hnothing
  have hteam : team = .nothing := hresolved.onTeam.nothing
  subst hteam
  exact hresolved.assigned.nothing

/-- A filter that picks nothing is resolved to one that admits nothing. -/
theorem answered_eq_nothing {f : Filters} {k : FilterKind}
    (h : Answered dir d s checkVisibility f k) (hempty : EmptyFilter d k) :
    f.of k = .nothing := by
  cases k with
  | users => exact users_eq_nothing h hempty
  | courses =>
    obtain ⟨c, hc, hall, hcourses⟩ := hempty
    have hnothing := (ownSelection_pickedCourses d).eq_nothing hc hall
      fun id => by simp [hcourses, selectedIds]
    have hnarrowed := narrowed_of_restrict h
    rw [hnothing] at hnarrowed
    exact hnarrowed.nothing
  | plans =>
    obtain ⟨p, hp, hall, hitems⟩ := hempty
    have hnothing := (ownSelection_pickedEntities d.learningPlans).eq_nothing hp hall
      fun id => by simp [hitems, selectedIds]
    have hnarrowed := narrowed_of_restrict h
    rw [hnothing] at hnarrowed
    exact hnarrowed.nothing
  | sessions =>
    obtain ⟨p, hp, hall, hitems⟩ := hempty
    exact h.trans ((ownSelection_pickedEntities d.sessions).eq_nothing hp hall
      fun id => by simp [hitems, selectedIds])
  | surveys =>
    obtain ⟨p, hp, hall, hitems⟩ := hempty
    exact h.trans ((ownSelection_pickedEntities d.surveys).eq_nothing hp hall
      fun id => by simp [hitems, selectedIds])
  | assets =>
    obtain ⟨a, ha, hall, hassets, hchannels⟩ := hempty
    refine h.1.trans ?_
    simp [Selection.assets, Option.mem_def.mp ha, hall, hassets, hchannels, Selection.ofItems,
      selectedIds, IdFilter.ofList, IdFilter.nothing, sortedIds]

end Resolution

/-! ## Reports without rows -/

/-- The branch has the false condition, shows it and has no rows. -/
structure Blocked (engine : Sql.Dialect) (b : Sql.Branch) : Prop where
  keeps : ∃ p, b.Keeps p .never
  shows : Occurs " AND FALSE" (engine.renderBranch b)
  rowless : ∀ (R : Sql.Reading) (scope : Sql.Scope R.Row), ¬R.RowOf b scope

theorem blocked_of_keeps {engine : Sql.Dialect} {b : Sql.Branch} {p : Sql.Place}
    (h : b.Keeps p .never) : Blocked engine b where
  keeps := ⟨p, h⟩
  shows := Sql.Dialect.occurs_of_keeps h engine.endsSolid_never
  rowless _ scope := Sql.Reading.not_rowOf_of_never h scope

/-- Whatever service answers, every report of the type with an empty filter of the kind has
branches, and each of them is blocked. -/
def FailsClosed (t : ReportType) (k : FilterKind) : Prop :=
  ∀ {m : Type → Type} [Monad m] [MonadExceptOf Failure m] [MonadAttach m] [LawfulService m]
    {dir : Directory m} {w : Warehouse} {d : Definition} {s : Session} {engine : Sql.Dialect}
    {o : CompileOptions} {r : Compiled},
    d.type = t → EmptyFilter d k → CanReturn (Report.compile dir w d s engine o) r →
      ∃ ctx, Gathered dir w d s o.checkVisibility ctx ∧
        r.sql = engine.renderQuery (Query.ofContext ctx o.limit o.use) ∧
        (Query.ofContext ctx o.limit o.use).branches ≠ [] ∧
        ∀ b ∈ (Query.ofContext ctx o.limit o.use).branches, Blocked engine b

theorem failsClosed_of_resolved {t : ReportType} {k : FilterKind} (hk : k ∈ t.filterKinds) :
    FailsClosed t k := by
  intro m _ _ _ _ dir w d s engine o r ht hempty h
  subst ht
  obtain ⟨-, ctx, -, hctx, rfl⟩ := gathered_of_compile h
  refine ⟨ctx, hctx, rfl, Query.branchesOf_ne_nil ctx, ?_⟩
  intro b hb
  obtain ⟨side, hside, rfl⟩ := Query.mem_branchesOf.mp hb
  have htype : k ∈ ctx.type.filterKinds := by
    rw [Context.type, hctx.definition]
    exact hk
  have hrestricted : BranchRestricted ctx engine side := branchRestricted_of_emits hside
  obtain ⟨hcolumn, hcarries⟩ := hrestricted.filters k htype
  obtain ⟨⟨p, c⟩, hpc⟩ := List.exists_mem_of_ne_nil _ hcolumn
  have hnothing : ctx.filters.of k = .nothing := answered_eq_nothing (hctx.filters k hk) hempty
  have hnever : Expr.never ∈ (ctx.filters.of k).conditions c := by
    rw [hnothing]
    exact List.mem_singleton.mpr rfl
  exact blocked_of_keeps ((hcarries (p, c) hpc).1.keeps _ hnever)

def caller : Session := { idUser := 1 }

def bare : Directory Outcome := Records.directory { session := caller }

def withoutPlans : Definition :=
  { idReport := "", type := .usersCourses, learningPlans := some { all := false } }

theorem emptyFilter_withoutPlans : EmptyFilter withoutPlans .plans :=
  ⟨{ all := false }, rfl, rfl, rfl⟩

theorem compile_withoutPlans :
    ∃ r, Report.compile bare .complete withoutPlans caller .athena {} = .ok r ∧
      ¬Text.bytes " AND FALSE" <:+: Text.bytes r.sql := by
  refine ⟨_, rfl, ?_⟩
  decide +kernel

theorem not_failsClosed_plans : ¬FailsClosed .usersCourses .plans := by
  intro hclosed
  obtain ⟨r, hr, hno⟩ := compile_withoutPlans
  have hreturn : CanReturn (Report.compile bare .complete withoutPlans caller .athena {}) r := hr
  obtain ⟨ctx, -, hsql, hne, hblocked⟩ := hclosed rfl emptyFilter_withoutPlans hreturn
  obtain ⟨b, hb⟩ := List.exists_mem_of_ne_nil _ hne
  have hfalse : Occurs " AND FALSE" r.sql := by
    rw [hsql]
    exact .trans (hblocked b hb).shows (occurs_renderQuery hb)
  exact hno hfalse.infix_bytes

/-- A type fails closed on the kinds of filters that it offers, exactly when it resolves them: all
but the plans of reports on users and courses. -/
theorem failsClosed_iff {t : ReportType} {k : FilterKind} (hk : Offers t k) :
    FailsClosed t k ↔ ¬(t = .usersCourses ∧ k = .plans) := by
  constructor
  · rintro hclosed ⟨rfl, rfl⟩
    exact not_failsClosed_plans hclosed
  · intro hno
    exact failsClosed_of_resolved ((offers_cases hk).resolve_right hno)

theorem offers_plans : Offers .usersCourses .plans :=
  ⟨caller, ⟨"", ""⟩, { title := .str "" }, _, rfl, rfl⟩

/-- Reports on users and courses offer a filter of plans and ignore it. -/
theorem compile_ignores_plans :
    Offers .usersCourses .plans ∧ EmptyFilter withoutPlans .plans ∧
      ∃ r, Report.compile bare .complete withoutPlans caller .athena {} = .ok r ∧
        ¬Occurs " AND FALSE" r.sql := by
  obtain ⟨r, hr, hno⟩ := compile_withoutPlans
  refine ⟨offers_plans, emptyFilter_withoutPlans, r, hr, fun hfalse => ?_⟩
  exact hno hfalse.infix_bytes

theorem failsClosed_iff_plans :
    Offers .usersCourses .plans ∧
      (FailsClosed .usersCourses .plans ↔
        ¬(ReportType.usersCourses = .usersCourses ∧ FilterKind.plans = .plans)) :=
  ⟨offers_plans, failsClosed_iff offers_plans⟩

end LearningReports
