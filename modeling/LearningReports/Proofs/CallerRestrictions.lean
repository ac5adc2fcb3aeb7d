import LearningReports.Directory.Records
import LearningReports.Proofs.Admission
import LearningReports.Proofs.BranchText
import LearningReports.Proofs.FilterPlaces

/-! # Restrictions of the caller

What the caller may see reaches every branch of a compiled report: the filters of users, courses and
plans are resolved from the definition, the caller's team and what is assigned to the caller, and
each branch carries their clauses on its own columns of ids. -/
namespace LearningReports

open MonadAttach (CanReturn)
open Sql (Expr Place)
open Text (Occurs)

section Resolution

variable {m : Type → Type} [Monad m] [MonadExceptOf Failure m] [MonadAttach m]

/-- The filters of users, courses and plans: the own selection of the definition, narrowed by what
the directory says of the caller. -/
structure ResolvedFilters (dir : Directory m) (d : Definition) (s : Session)
    (checkVisibility : Bool) (f : Filters) : Prop where
  users : .users ∈ d.type.filterKinds → ∃ own team,
    ResolvedUsers dir d s checkVisibility own team f.users
  courses : .courses ∈ d.type.filterKinds → ∃ own,
    OwnSelection d.courses (·.all) (fun c id => id ∈ selectedIds c.courses) own ∧
      Narrowed (Restricted s checkVisibility) dir.assignedCourses own f.courses
  plans : .plans ∈ d.type.filterKinds → ∃ own,
    OwnSelection d.learningPlans (·.all) (fun p id => id ∈ selectedIds p.items) own ∧
      Narrowed (Restricted s checkVisibility) dir.assignedPlans own f.plans

theorem resolvedFilters_of_answered [LawfulService m] {dir : Directory m} {d : Definition}
    {s : Session} {checkVisibility : Bool} {f : Filters}
    (h : ∀ k ∈ d.type.filterKinds, Answered dir d s checkVisibility f k) :
    ResolvedFilters dir d s checkVisibility f where
  users hk := resolvedUsers_of_users (h _ hk)
  courses hk := ⟨_, ownSelection_pickedCourses d, narrowed_of_restrict (h _ hk)⟩
  plans hk := ⟨_, ownSelection_pickedEntities d.learningPlans, narrowed_of_restrict (h _ hk)⟩

end Resolution

/-- A branch carries conditions at a place: it has them there, its text shows them, and they hold of
every row, whatever the engine makes of its tables. -/
structure Carries (engine : Sql.Dialect) (b : Sql.Branch) (p : Place) (conditions : List Expr) :
    Prop where
  keeps : ∀ e ∈ conditions, b.Keeps p e
  shows : ∀ e ∈ conditions, Occurs (" AND " ++ engine.render e) (engine.renderBranch b)
  holds : ∀ e ∈ conditions, ∀ (R : Sql.Reading) (scope : Sql.Scope R.Row), R.RowOf b scope →
    R.HoldsAt scope p e

theorem carries_of_keeps {engine : Sql.Dialect} {b : Sql.Branch} {p : Place}
    {conditions : List Expr} (hkeeps : ∀ e ∈ conditions, b.Keeps p e)
    (hsolid : ∀ e ∈ conditions, Text.EndsSolid (engine.render e)) :
    Carries engine b p conditions where
  keeps := hkeeps
  shows e he := Sql.Dialect.occurs_of_keeps (hkeeps e he) (hsolid e he)
  holds e he _ _ hrow := hrow.holdsAt (hkeeps e he)

/-- The comparisons of custom fields of users with their selected options. -/
def Context.optionComparisons (ctx : Context) : List Expr :=
  ctx.userConditions.map fun (field, option) =>
    .eq (.name (CustomField.columnOf field)) (.int option)

/-- The conditions on custom fields are one membership in a query over their values, which asks for
all the selected options. -/
theorem userFieldConditions_eq {ctx : Context} (h : ctx.userConditions ≠ []) (column : Expr) :
    ∃ first rest, ctx.optionComparisons = first :: rest ∧ ctx.userFieldConditions column =
      [.inSelect false column (.name "id_user") Table.userFieldValue.name
        (.joined .and first rest)] := by
  unfold Context.userFieldConditions Context.optionComparisons
  cases hc : ctx.userConditions with
  | nil => exact absurd hc h
  | cons c cs => exact ⟨_, _, rfl, rfl⟩

theorem endsSolid_userFieldConditions {ctx : Context} {engine : Sql.Dialect} {column e : Expr}
    (h : e ∈ ctx.userFieldConditions column) : Text.EndsSolid (engine.render e) := by
  cases hc : ctx.userConditions with
  | nil => simp [Context.userFieldConditions, hc] at h
  | cons c cs =>
    obtain ⟨first, rest, -, heq⟩ :=
      userFieldConditions_eq (by rw [hc]; exact List.cons_ne_nil c cs) column
    rw [heq] at h
    cases List.mem_singleton.mp h
    exact Sql.Dialect.endsSolid_inSelect ..

structure BranchRestricted (ctx : Context) (engine : Sql.Dialect) (side : Side) : Prop where
  /-- The clause of each filter stands on every column of its ids, and there is such a column. -/
  filters : ∀ k ∈ ctx.type.filterKinds, idColumns ctx.type side k ≠ [] ∧
    ∀ pc ∈ idColumns ctx.type side k,
      Carries engine (Layout.branch ctx side) pc.1 ((ctx.filters.of k).conditions pc.2) ∧
        Occurs ((ctx.filters.of k).clause (engine.render pc.2))
          (engine.renderBranch (Layout.branch ctx side))
  /-- The clause of custom fields of the users stands on a column of user ids, and asks for all the
  selected options. -/
  userFields : .users ∈ ctx.type.filterKinds → ctx.userConditions ≠ [] →
    ∃ p c first rest, ctx.optionComparisons = first :: rest ∧
      userFieldColumn ctx.type side = some (p, c) ∧
      Carries engine (Layout.branch ctx side) p
        [.inSelect false c (.name "id_user") Table.userFieldValue.name (.joined .and first rest)]

theorem branchRestricted_of_emits {ctx : Context} {engine : Sql.Dialect} {side : Side}
    (h : Query.emits ctx side = true) : BranchRestricted ctx engine side where
  filters k hk := by
    have hside : side = .archive → ctx.type.supportsArchive = true := by
      rintro rfl
      exact Query.supportsArchive_of_emits h
    refine ⟨idColumns_ne_nil hk hside, ?_⟩
    rintro ⟨p, c⟩ hpc
    have hkeeps : ∀ e ∈ (ctx.filters.of k).conditions c, (Layout.branch ctx side).Keeps p e :=
      fun e he => branch_keeps_filter hpc he
    exact ⟨carries_of_keeps hkeeps fun e he => IdFilter.endsSolid_of_mem_conditions he,
      IdFilter.occurs_clause hkeeps⟩
  userFields hk hne := by
    have hside : side = .archive → ctx.type.supportsArchive = true := by
      rintro rfl
      exact Query.supportsArchive_of_emits h
    obtain ⟨⟨p, c⟩, hpc⟩ := Option.isSome_iff_exists.mp (userFieldColumn_isSome hk hside)
    obtain ⟨first, rest, hoptions, heq⟩ := userFieldConditions_eq hne c
    refine ⟨p, c, first, rest, hoptions, hpc, ?_⟩
    rw [← heq]
    exact carries_of_keeps (fun e he => branch_keeps_userField hpc he)
      fun e he => endsSolid_userFieldConditions he

section Compilation

variable {m : Type → Type} [Monad m] [MonadExceptOf Failure m] [MonadAttach m] [LawfulService m]

/-- Every compiled report comes from resolved filters, and each of its branches carries them. -/
theorem compile_carries_restrictions {dir : Directory m} {w : Warehouse} {d : Definition}
    {s : Session} {engine : Sql.Dialect} {o : CompileOptions} {r : Compiled}
    (h : CanReturn (Report.compile dir w d s engine o) r) :
    ∃ ctx, Gathered dir w d s o.checkVisibility ctx ∧
      ResolvedFilters dir d s o.checkVisibility ctx.filters ∧
      r.sql = engine.renderQuery (Query.ofContext ctx o.limit o.use) ∧
      ∀ b ∈ (Query.ofContext ctx o.limit o.use).branches, Occurs (engine.renderBranch b) r.sql ∧
        ∃ side, b = Layout.branch ctx side ∧ BranchRestricted ctx engine side := by
  obtain ⟨-, ctx, -, hctx, rfl⟩ := gathered_of_compile h
  refine ⟨ctx, hctx, resolvedFilters_of_answered hctx.filters, rfl, ?_⟩
  intro b hb
  refine ⟨occurs_renderQuery hb, ?_⟩
  obtain ⟨side, hside, rfl⟩ := Query.mem_branchesOf.mp hb
  exact ⟨side, rfl, branchRestricted_of_emits hside⟩

end Compilation

def assigned : Session := { idUser := 7, level := .powerUser }

def assigning : Directory Outcome :=
  Records.directory
    { session := assigned
      assignedUsers := [.int 1, .int 2]
      assignedCourses := [.int 5] }

def onTwoUsers : Definition :=
  { idReport := "", type := .usersCourses
    users := some { all := false, users := [{ id := 2 }, { id := 3 }] } }

theorem compile_carries_restrictions_powerUser :
    ∃ r, Report.compile assigning .complete onTwoUsers assigned .athena {} = .ok r ∧
      ∃ ctx, Gathered assigning .complete onTwoUsers assigned true ctx ∧
        ResolvedFilters assigning onTwoUsers assigned true ctx.filters ∧
        r.sql = Sql.Dialect.athena.renderQuery (Query.ofContext ctx 0 {}) ∧
        ∀ b ∈ (Query.ofContext ctx 0 {}).branches,
          Occurs (Sql.Dialect.athena.renderBranch b) r.sql ∧
            ∃ side, b = Layout.branch ctx side ∧ BranchRestricted ctx .athena side := by
  obtain ⟨r, hr⟩ : ∃ r,
      Report.compile assigning .complete onTwoUsers assigned .athena {} = .ok r := ⟨_, rfl⟩
  have hreturn : CanReturn (Report.compile assigning .complete onTwoUsers assigned .athena {}) r :=
    hr
  exact ⟨r, hr, compile_carries_restrictions hreturn⟩

end LearningReports
