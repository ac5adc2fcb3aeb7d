import LearningReports.Proofs.ColumnOutlines
import LearningReports.Proofs.UnitedBranches

/-! # Grouped rows

The live branch of some types of reports has one row for each group. There every column that is
taken from a table stands inside exactly one aggregate; the other branches select none. -/
namespace LearningReports

open MonadAttach (CanReturn)

namespace Sql

def aggregateNames : List String := ["ARBITRARY", "ANY_VALUE", "MAX", "SUM", "COUNT", "ARRAY_AGG"]

namespace Expr

/-- For each column that is taken from a table, the number of aggregates around it. Text that was
given as a whole counts as a column outside of them. -/
def depths : Expr → List Nat
  | .raw _ | .col _ _ => [0]
  | .word _ | .int _ | .ids _ | .str _ | .verbatim _ | .label _ | .name _ | .moment _ => []
  | .noMore => []
  | .call function e => if function ∈ aggregateNames then e.depths.map (· + 1) else e.depths
  | .aggregate _ e => e.depths.map (· + 1)
  | .pair a b | .op _ a b => a.depths ++ b.depths
  | .cast e _ | .tryCast e _ | .apply _ e => e.depths
  | .isNull e | .notNull e | .not e | .paren e | .choice e | .otherwise e => e.depths
  | .arm a b c | .choose a b c => a.depths ++ b.depths ++ c.depths
  | .inSelect _ e item _ condition => e.depths ++ item.depths ++ condition.depths

def hasAggregate : Expr → Bool
  | .raw _ => true
  | .col _ _ | .word _ | .int _ | .ids _ | .str _ | .verbatim _ | .label _ | .name _ => false
  | .moment _ | .noMore => false
  | .call function e => aggregateNames.contains function || e.hasAggregate
  | .aggregate _ _ => true
  | .pair a b | .op _ a b => a.hasAggregate || b.hasAggregate
  | .cast e _ | .tryCast e _ | .apply _ e => e.hasAggregate
  | .isNull e | .notNull e | .not e | .paren e | .choice e | .otherwise e => e.hasAggregate
  | .arm a b c | .choose a b c => a.hasAggregate || b.hasAggregate || c.hasAggregate
  | .inSelect _ e item _ condition => e.hasAggregate || item.hasAggregate || condition.hasAggregate

/-- Over groups of rows every column stands inside exactly one aggregate; over single rows there is
no aggregate. -/
def fitsRows (grouped : Bool) (e : Expr) : Bool :=
  if grouped then e.depths.all (· == 1) else !e.hasAggregate

theorem depths_skeleton (e : Expr) : e.skeleton.depths = e.depths := by
  induction e with
  | _ => simp_all [skeleton, depths]

theorem hasAggregate_skeleton (e : Expr) : e.skeleton.hasAggregate = e.hasAggregate := by
  induction e with
  | _ => simp_all [skeleton, hasAggregate]

theorem fitsRows_skeleton (grouped : Bool) (e : Expr) :
    e.skeleton.fitsRows grouped = e.fitsRows grouped := by
  simp only [fitsRows, depths_skeleton, hasAggregate_skeleton]

end Expr
end Sql

open Sql (Expr)

/-- The rows of the branch are groups. -/
def ReportType.groups (t : ReportType) : Side → Bool
  | .live => t.isGrouped
  | .archive => false

/-- The expressions of the column fit the rows of their branches. -/
def Column.fitsRows (t : ReportType) (c : Column) : Bool :=
  c.live.fitsRows (t.groups .live) && c.archived.fitsRows (t.groups .archive)

theorem Column.on_fitsRows {t : ReportType} {c : Column} (h : c.fitsRows t = true) (side : Side) :
    (c.on side).fitsRows (t.groups side) = true := by
  obtain ⟨hlive, harchived⟩ := (Bool.and_eq_true _ _).mp h
  cases side with
  | live => exact hlive
  | archive => exact harchived

/-! ## Standard fields -/

/-- But for texts between quotes, a column depends on nothing but the type of the report and the
order of names. -/
theorem skeleton_column {ctx : Context} {f : Field} {build : Builder}
    (h : ctx.type.column? f = some build) (side : Side) :
    ((build ctx).on side).skeleton =
      ((build (.sample ctx.type ctx.session.platform.firstNameFirst)).on side).skeleton := by
  refine ctx.type.eq_of_map_builders (v := fun b => ((b ctx).on side).skeleton)
    (w := fun b =>
      ((b (.sample ctx.type ctx.session.platform.firstNameFirst)).on side).skeleton) h ?_
  obtain ⟨⟨id, type⟩, ⟨idUser, level, lang, langCode, timezone, platform⟩, labels, wordings,
    filters, fields, conditions⟩ := ctx
  obtain ⟨url, language, code, plugins, toggles, first, assignments, limits⟩ := platform
  cases type <;> cases side <;> rfl

theorem fitsRows_sample : ∀ t ∈ ReportType.all, ∀ first ∈ [true, false], ∀ f ∈ Field.all,
    ((t.column? f).all fun build => (build (.sample t first)).fitsRows t) = true := by
  intro t _
  cases t with
  | _ => decide +kernel

theorem fitsRows_column {ctx : Context} {f : Field} {build : Builder}
    (h : ctx.type.column? f = some build) (side : Side) :
    ((build ctx).on side).fitsRows (ctx.type.groups side) = true := by
  have hbool (b : Bool) : b ∈ [true, false] := by
    cases b <;> decide
  have hsample := fitsRows_sample ctx.type (ReportType.mem_all _)
    ctx.session.platform.firstNameFirst (hbool _) f (Field.mem_all f)
  rw [h] at hsample
  rw [← Expr.fitsRows_skeleton, skeleton_column h, Expr.fitsRows_skeleton]
  exact Column.on_fitsRows hsample side

/-! ## Custom fields -/

/-- A value stands inside an aggregate exactly when the rows are groups. -/
theorem fitsRows_value (ctx : Context) {e : Expr} (hdepths : e.depths.all (· == 0) = true)
    (hnone : e.hasAggregate = false) : (ctx.value e).fitsRows ctx.type.isGrouped = true := by
  unfold Context.value
  cases ctx.type.isGrouped with
  | true =>
    rw [Expr.fitsRows, if_pos rfl, if_pos rfl, Expr.depths, List.all_map]
    simpa [Function.comp_def] using hdepths
  | false => simp [Expr.fitsRows, hnone]

namespace CustomColumns

variable (ctx : Context) (f : ResolvedField)

theorem fitsRows_user (key : Expr) :
    (user key ctx f).live.fitsRows ctx.type.isGrouped = true := by
  have hstored : (ctx.value (valueCol .userFieldValue f)).fitsRows ctx.type.isGrouped = true :=
    fitsRows_value ctx rfl rfl
  unfold user
  dsimp only
  split
  · exact hstored
  · exact fitsRows_value ctx rfl rfl
  · simp only [Context.value]
    cases ctx.type.isGrouped with
    | _ => rfl
  · exact fitsRows_value ctx rfl rfl
  · exact hstored
  · cases ctx.type.isGrouped with
    | _ => rfl

theorem fitsRows_keyed (values : Table) (column : String) (key archived : Expr) :
    (keyed values column key archived ctx f).live.fitsRows ctx.type.isGrouped = true := by
  have hstored : (ctx.value (valueCol values f)).fitsRows ctx.type.isGrouped = true :=
    fitsRows_value ctx rfl rfl
  unfold keyed courseLike
  dsimp only
  split
  · exact hstored
  · exact fitsRows_value ctx rfl rfl
  · simp only [Context.value]
    cases ctx.type.isGrouped with
    | _ => rfl
  · exact hstored
  · cases ctx.type.isGrouped with
    | _ => rfl
  · cases ctx.type.isGrouped with
    | _ => rfl

theorem fitsRows_enrollment : (enrollment ctx f).live.fitsRows ctx.type.isGrouped = true := by
  unfold enrollment
  dsimp only
  split
  · exact fitsRows_value ctx rfl rfl
  · exact fitsRows_value ctx rfl rfl

variable {ctx f}

theorem Made.fitsRows {c : Column} (h : Made ctx f c) : c.fitsRows ctx.type = true := by
  have hempty : Expr.empty.fitsRows ctx.type.isGrouped = true := by
    cases ctx.type.isGrouped with
    | _ => rfl
  refine (Bool.and_eq_true _ _).mpr ⟨?_, ?_⟩
  · cases h with
    | user => exact fitsRows_user ctx f _
    | course => exact fitsRows_keyed ctx f ..
    | session => exact fitsRows_keyed ctx f ..
    | plan => exact fitsRows_keyed ctx f ..
    | enrollment => exact fitsRows_enrollment ctx f
    | empty => exact hempty
    | unarchived => exact hempty
  · cases h with
    | user =>
      unfold CustomColumns.user
      dsimp only
      split <;> rfl
    | enrollment =>
      unfold CustomColumns.enrollment
      dsimp only
      split <;> rfl
    | _ => rfl

end CustomColumns

/-! ## Branches -/

theorem fitsRows_of_mem_columns {ctx : Context} {key : String} {c : Column}
    (h : (key, c) ∈ Layout.columns ctx) (side : Side) :
    (c.on side).fitsRows (ctx.type.groups side) = true := by
  have hempty : (CustomColumns.emptyColumn.on side).fitsRows (ctx.type.groups side) = true := by
    cases side with
    | _ =>
      cases ctx.type.groups _ with
      | _ => rfl
  exact Layout.of_mem_columns (motive := fun c => (c.on side).fitsRows _ = true)
    (fun r => Column.on_fitsRows (CustomColumns.made_customColumn ctx.type ctx r).fitsRows side)
    hempty (fitsRows_column · side) h

theorem fitsRows_select (ctx : Context) (side : Side) :
    ∀ s ∈ (Layout.branch ctx side).select, s.1.fitsRows (ctx.type.groups side) = true := by
  intro s hs
  rw [select_branch] at hs
  split at hs
  · cases List.mem_singleton.mp hs
    cases ctx.type.groups side with
    | _ => rfl
  · obtain ⟨kc, hkc, rfl⟩ := List.mem_map.mp hs
    exact fitsRows_of_mem_columns hkc side

section Service

variable {m : Type → Type} [Monad m] [MonadExceptOf Failure m] [MonadAttach m] [LawfulService m]

/-- What a branch of a compiled report selects fits its rows. -/
theorem compile_fits_rows {dir : Directory m} {w : Warehouse} {d : Definition} {s : Session}
    {engine : Sql.Dialect} {o : CompileOptions} {r : Compiled}
    (h : CanReturn (Report.compile dir w d s engine o) r) :
    ∃ ctx, Gathered dir w d s o.checkVisibility ctx ∧
      r.sql = engine.renderQuery (Query.ofContext ctx o.limit o.use) ∧
      ∀ b ∈ (Query.ofContext ctx o.limit o.use).branches, ∃ side, Query.emits ctx side = true ∧
        b = Layout.branch ctx side ∧
        ∀ selected ∈ b.select,
          if d.type.groups side then ∀ depth ∈ selected.1.depths, depth = 1
          else selected.1.hasAggregate = false := by
  obtain ⟨-, ctx, -, hctx, rfl⟩ := gathered_of_compile h
  refine ⟨ctx, hctx, rfl, fun b hb => ?_⟩
  obtain ⟨side, hemits, rfl⟩ := Query.mem_branchesOf.mp hb
  refine ⟨side, hemits, rfl, fun selected hselected => ?_⟩
  have hfits := fitsRows_select ctx side selected hselected
  rw [Context.type, hctx.definition, Expr.fitsRows] at hfits
  split at hfits
  · next hgroups =>
    rw [if_pos hgroups]
    simpa using hfits
  · next hgroups =>
    rw [if_neg hgroups]
    simpa using hfits

end Service

def onSessions : Definition :=
  { idReport := "", type := .classroomSessions, fields := ["user_userid", "course_name"]
    enrollment := some { scope := .activeAndArchived } }

theorem compile_fits_rows_sessions :
    ∃ r, Report.compile (Records.directory { session := archivist }) .complete onSessions archivist
        .athena {} = .ok r ∧
      ∃ ctx, Gathered (m := Outcome) (Records.directory { session := archivist }) .complete
          onSessions archivist true ctx ∧
        r.sql = Sql.Dialect.athena.renderQuery (Query.ofContext ctx 0 {}) ∧
        ∀ b ∈ (Query.ofContext ctx 0 {}).branches, ∃ side, Query.emits ctx side = true ∧
          b = Layout.branch ctx side ∧
          ∀ selected ∈ b.select,
            if onSessions.type.groups side then ∀ depth ∈ selected.1.depths, depth = 1
            else selected.1.hasAggregate = false := by
  obtain ⟨r, hr⟩ : ∃ r, Report.compile (Records.directory { session := archivist }) .complete
      onSessions archivist .athena {} = .ok r := ⟨_, rfl⟩
  have hreturn : CanReturn (Report.compile (m := Outcome)
      (Records.directory { session := archivist }) .complete onSessions archivist .athena {}) r :=
    hr
  exact ⟨r, hr, compile_fits_rows hreturn⟩

end LearningReports
