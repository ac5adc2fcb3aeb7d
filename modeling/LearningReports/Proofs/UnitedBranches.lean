import LearningReports.Directory.Records
import LearningReports.Proofs.Gathered
import LearningReports.Proofs.NamedQueries
import LearningReports.Proofs.ResultColumns

/-! # United branches

The live and the archived branch of a query are united exactly when both are there. They select the
same labels in the same order, and the query names exactly the queries that one of them joins. -/
namespace LearningReports

open MonadAttach (CanReturn)
open Sql (Expr Fragment)

/-! ## Named queries of columns -/

/-- The parts of a column define exactly the named queries that they join. -/
structure Column.Backed (c : Column) : Prop where
  live : backed c.liveParts = true
  archive : backed c.archiveParts = true

theorem backed_column? (t : ReportType) {f : Field} {build : Builder}
    (h : t.column? f = some build) (ctx : Context) : (build ctx).Backed := by
  constructor
  case live =>
    refine t.eq_of_map_builders (v := fun b => backed (b ctx).liveParts) (w := fun _ => true) h ?_
    cases t with
    | _ => rfl
  case archive =>
    refine t.eq_of_map_builders (v := fun b => backed (b ctx).archiveParts)
      (w := fun _ => true) h ?_
    cases t with
    | _ => rfl

theorem aliasFor_ne {t : Table} (ht : t ∈ Table.namedQueries) (start : String)
    (f : ResolvedField) : CustomColumns.aliasFor start f ≠ t.handle := by
  have hline : '_' ∈ (CustomColumns.aliasFor start f).toList := by
    unfold CustomColumns.aliasFor
    rw [String.toList_append, String.toList_append]
    exact List.mem_append_left _ (List.mem_append_right _ (by decide))
  have hplain : ∀ t ∈ Table.namedQueries, '_' ∉ t.handle.toList := by decide
  intro heq
  rw [heq] at hline
  exact hplain t ht hline

theorem isPlain_leftJoinAs {options : Table} {start : String} {f : ResolvedField}
    {condition : Expr} (h : options.name ∉ Table.namedQueries.map (·.name)) :
    (options.leftJoinAs (CustomColumns.aliasFor start f) condition).isPlain = true := by
  simp only [Fragment.isPlain, Bool.and_eq_true, List.all_eq_true]
  refine ⟨rfl, fun t ht => ?_⟩
  have hname : options.name ≠ t.name := fun heq => h (heq ▸ List.mem_map_of_mem ht)
  have hkey := aliasFor_ne ht start f
  simp [Table.leftJoinAs, Fragment.defines, Fragment.defined?, Fragment.joins, Fragment.sources,
    Fragment.isKeyed, Sql.Source.leftJoin, Sql.Source.tableName?, hname, hkey]

theorem backed_joinOptions {joined : Fragment} (hjoined : joined.isPlain = true) {options : Table}
    (h : options.name ∉ Table.namedQueries.map (·.name)) (start : String) (f : ResolvedField)
    (condition : Expr) :
    backed [joined, options.leftJoinAs (CustomColumns.aliasFor start f) condition] = true := by
  refine backed_of_plain ?_
  simp [hjoined, isPlain_leftJoinAs h]

namespace CustomColumns

theorem backed_keyed {values : Table} {column : String}
    (hvalues : ∀ condition, (values.leftJoin condition).isPlain = true) (key archived : Expr)
    (ctx : Context) (f : ResolvedField) : (keyed values column key archived ctx f).Backed := by
  have hjoin : ∀ condition, backed [values.leftJoin condition] = true := fun condition =>
    backed_of_plain (by simp [hvalues condition])
  unfold keyed courseLike
  dsimp only
  split
  case h_2 => exact ⟨backed_joinOptions (hvalues _) (by decide) .., rfl⟩
  all_goals exact ⟨hjoin _, rfl⟩

theorem Made.backed {ctx : Context} {f : ResolvedField} {c : Column} (h : Made ctx f c) :
    c.Backed := by
  cases h with
  | user =>
    unfold CustomColumns.user
    dsimp only
    split
    case h_2 => exact ⟨backed_joinOptions rfl (by decide) .., rfl⟩
    case h_4 => exact ⟨backed_joinOptions rfl (by decide) .., rfl⟩
    all_goals exact ⟨rfl, rfl⟩
  | course => exact backed_keyed (fun _ => rfl) ..
  | session => exact backed_keyed (fun _ => rfl) ..
  | plan => exact backed_keyed (fun _ => rfl) ..
  | enrollment =>
    unfold CustomColumns.enrollment
    dsimp only
    split
    · refine ⟨backed_of_plain ?_, rfl⟩
      rw [List.all_cons, isPlain_leftJoinAs (by decide)]
      rfl
    · exact ⟨rfl, rfl⟩
  | empty => exact ⟨rfl, rfl⟩
  | unarchived => exact ⟨rfl, rfl⟩

end CustomColumns

theorem backed_of_mem_columns {ctx : Context} {key : String} {c : Column}
    (h : (key, c) ∈ Layout.columns ctx) : c.Backed :=
  Layout.of_mem_columns (fun r => (CustomColumns.made_customColumn ctx.type ctx r).backed)
    ⟨rfl, rfl⟩ (fun hbuild => backed_column? ctx.type hbuild ctx) h

/-! ## Named queries of bases -/

theorem backed_restrictAll (es : List Expr) : backed (restrictAll es) = true := by
  refine backed_of_plain (List.all_eq_true.mpr fun f hf => ?_)
  obtain ⟨e, -, rfl⟩ := List.mem_map.mp hf
  rfl

theorem backed_when {condition : Bool} {fs : List Fragment} (h : backed fs = true) :
    backed (when condition fs) = true := by
  cases condition with
  | true => exact h
  | false => rfl

/-- The base of a report defines exactly the named queries that it joins. -/
theorem backed_base (ctx : Context) (side : Side) :
    backed ((ctx.type.base ctx).side side) = true := by
  cases ctx.type <;> cases side
  case usersCourses.live =>
    exact backed_append rfl (backed_restrictAll _)
  case usersCourses.archive =>
    exact backed_cons rfl (backed_restrictAll _)
  case classroomSessions.live =>
    have hlearners : backed (when ctx.onlyLearners [ClassroomSessions.joinInstructor,
        .restrict (.and (.isNull (Table.sessionInstructor.col "id_user")))]) = true :=
      backed_when rfl
    refine backed_append (backed_append (backed_append ?_ hlearners) (backed_restrictAll _)) rfl
    rfl
  case classroomSessions.archive =>
    exact backed_cons rfl (backed_cons rfl (backed_restrictAll _))
  case surveyAnswers.live => rfl
  case surveyAnswers.archive => rfl
  case assetStatistics.live =>
    exact backed_append (backed_append rfl (backed_restrictAll _)) rfl
  case assetStatistics.archive => rfl
  case planStatistics.live =>
    have hcompletion : backed (PlanStatistics.completionParts ctx) = true := by
      unfold PlanStatistics.completionParts
      split <;> rfl
    exact backed_append (backed_append rfl hcompletion) rfl
  case planStatistics.archive => rfl
  case enrollmentTime.live =>
    exact backed_append rfl (backed_restrictAll _)
  case enrollmentTime.archive => rfl

theorem backed_selection (ctx : Context) (expr : Column → Expr) :
    backed (Layout.selection ctx expr) = true := by
  refine backed_of_plain (List.all_eq_true.mpr fun f hf => ?_)
  unfold Layout.selection at hf
  split at hf
  · rw [List.mem_singleton.mp hf]
    rfl
  · obtain ⟨kc, -, rfl⟩ := List.mem_map.mp hf
    rfl

theorem Layout.mem_names_branch {ctx : Context} {side : Side} {name : String} :
    name ∈ (Layout.branch ctx side).definitions.map Prod.fst ↔
      (∃ t ∈ Table.namedQueries, t.name = name) ∧ (Layout.branch ctx side).Joins name := by
  rw [Layout.branch_eq]
  refine mem_names_iff_joins (backed_append (backed_append (backed_base ctx side) ?_)
    (backed_selection ctx _))
  refine backed_flatMap fun kc hkc => ?_
  have hcolumn := backed_of_mem_columns hkc
  cases side with
  | live => exact hcolumn.live
  | archive => exact hcolumn.archive

/-! ## The union -/

theorem BranchChoice.union_eq (d : Definition) (s : Session) :
    (ofDefinition d s).union = ((ofDefinition d s).live && (ofDefinition d s).archive) := by
  cases harchives : s.platform.hasArchive with
  | false => rw [ofDefinition_of_not_hasArchive harchives]; rfl
  | true =>
    simp only [ofDefinition, harchives]
    cases scopeOf d <;> cases onlyArchiveFits d <;> rfl

namespace Query

/-- Where the type has an archive, the definition and the session decide on the branches. -/
theorem choice_eq {ctx : Context} (h : ctx.type.supportsArchive = true) :
    choice ctx = .ofDefinition ctx.definition ctx.session := by
  unfold choice
  split
  · rfl
  · next hno =>
    have harchives : ctx.session.platform.hasArchive = false := by
      simpa [Context.hasArchive, h] using hno
    exact (BranchChoice.ofDefinition_of_not_hasArchive harchives).symm

theorem union_choice (ctx : Context) :
    (choice ctx).union = ((choice ctx).live && (choice ctx).archive) := by
  unfold choice
  split
  · exact BranchChoice.union_eq ..
  · rfl

end Query

/-- All branches of a report select the same labels. -/
theorem labels_branch (ctx : Context) (side : Side) :
    (Layout.branch ctx side).select.map Prod.snd =
      if Layout.columns ctx = [] then [.label "-"]
      else (Layout.columns ctx).map fun kc => Layout.aliasOf ctx kc.1 := by
  rw [select_branch]
  split
  · rfl
  · simp

/-- The branches of a query fit each other, and the named queries fit the branches. -/
structure LinedUp (ctx : Context) (engine : Sql.Dialect) (c : BranchChoice) (q : Query) :
    Prop where
  branches : q.branches = when c.live [Layout.live ctx] ++ when c.archive [Layout.archive ctx]
  nonempty : q.branches ≠ []
  union_iff : c.union = true ↔ c.live = true ∧ c.archive = true
  united : c.union = true → q.branches = [Layout.live ctx, Layout.archive ctx] ∧
    engine.renderQuery q = engine.renderDefinitions q.definitions
      ++ (engine.renderBranch (Layout.live ctx) ++ " UNION "
        ++ engine.renderBranch (Layout.archive ctx))
      ++ engine.renderOrder q.order ++ " LIMIT " ++ toString q.limit
  single : c.union = false → ∃ b, q.branches = [b] ∧
    engine.renderQuery q = engine.renderDefinitions q.definitions ++ engine.renderBranch b
      ++ engine.renderOrder q.order ++ " LIMIT " ++ toString q.limit
  selects : ∀ b ∈ q.branches, b.select ≠ []
  aligned : ∀ b ∈ q.branches, ∀ b' ∈ q.branches,
    b.select.map Prod.snd = b'.select.map Prod.snd
  named_once : (q.definitions.map Prod.fst).Nodup
  named_iff : ∀ name, name ∈ q.definitions.map Prod.fst ↔
    (∃ t ∈ Table.namedQueries, t.name = name) ∧ ∃ b ∈ q.branches, b.Joins name

theorem linedUp_ofContext (ctx : Context) (engine : Sql.Dialect) (limit : Int) (use : ExportUse) :
    LinedUp ctx engine (Query.choice ctx) (Query.ofContext ctx limit use) where
  branches := rfl
  nonempty := Query.branchesOf_ne_nil ctx
  union_iff := by rw [Query.union_choice, Bool.and_eq_true]
  united h := by
    rw [Query.union_choice, Bool.and_eq_true] at h
    have hboth : (Query.ofContext ctx limit use).branches =
        [Layout.live ctx, Layout.archive ctx] := by
      change Query.branchesOf ctx = _
      rw [Query.branchesOf, h.1, h.2]
      rfl
    refine ⟨hboth, ?_⟩
    rw [Sql.Dialect.renderQuery, hboth]
    simp [String.append_assoc]
  single h := by
    have hne := Query.branchesOf_ne_nil ctx
    have hone : ∃ b, (Query.ofContext ctx limit use).branches = [b] := by
      change ∃ b, Query.branchesOf ctx = [b]
      rw [Query.union_choice] at h
      revert h hne
      unfold Query.branchesOf
      cases (Query.choice ctx).live <;> cases (Query.choice ctx).archive <;> simp [when]
    obtain ⟨b, hb⟩ := hone
    refine ⟨b, hb, ?_⟩
    rw [Sql.Dialect.renderQuery, hb]
    simp
  selects b hb := by
    obtain ⟨side, -, rfl⟩ := Query.mem_branchesOf.mp hb
    rw [select_branch]
    split
    · exact List.cons_ne_nil _ _
    · next hcolumns => simpa using hcolumns
  aligned b hb b' hb' := by
    obtain ⟨side, -, rfl⟩ := Query.mem_branchesOf.mp hb
    obtain ⟨side', -, rfl⟩ := Query.mem_branchesOf.mp hb'
    rw [labels_branch, labels_branch]
  named_once := Query.nodup_names_definitionsOf ctx
  named_iff name := by
    change name ∈ (Query.definitionsOf ctx).map Prod.fst ↔ _ ∧ ∃ b ∈ Query.branchesOf ctx, _
    rw [Query.mem_names_definitionsOf]
    constructor
    · rintro ⟨b, hb, hname⟩
      obtain ⟨side, -, rfl⟩ := Query.mem_branchesOf.mp hb
      obtain ⟨hnamed, hjoins⟩ := Layout.mem_names_branch.mp hname
      exact ⟨hnamed, _, hb, hjoins⟩
    · rintro ⟨hnamed, b, hb, hjoins⟩
      obtain ⟨side, -, rfl⟩ := Query.mem_branchesOf.mp hb
      exact ⟨_, hb, Layout.mem_names_branch.mpr ⟨hnamed, hjoins⟩⟩

section Service

variable {m : Type → Type} [Monad m] [MonadExceptOf Failure m] [MonadAttach m] [LawfulService m]

/-- The branches of every compiled report that can have an archive line up. -/
theorem compile_lines_up {dir : Directory m} {w : Warehouse} {d : Definition} {s : Session}
    {engine : Sql.Dialect} {o : CompileOptions} {r : Compiled}
    (ht : d.type.supportsArchive = true)
    (h : CanReturn (Report.compile dir w d s engine o) r) :
    ∃ ctx, Gathered dir w d s o.checkVisibility ctx ∧
      r.sql = engine.renderQuery (Query.ofContext ctx o.limit o.use) ∧
      LinedUp ctx engine (.ofDefinition d s) (Query.ofContext ctx o.limit o.use) := by
  obtain ⟨-, ctx, -, hctx, rfl⟩ := gathered_of_compile h
  have htype : ctx.type.supportsArchive = true := by
    rw [Context.type, hctx.definition]
    exact ht
  have hchoice : Query.choice ctx = .ofDefinition d s := by
    rw [Query.choice_eq htype, hctx.definition, hctx.session]
  refine ⟨ctx, hctx, rfl, ?_⟩
  rw [← hchoice]
  exact linedUp_ofContext ctx engine o.limit o.use

end Service

def archivist : Session :=
  { idUser := 6, platform := { toggles := [Feature.archivedEnrollments.name] } }

def onSkills : Definition :=
  { idReport := "", type := .usersCourses, fields := ["user_userid", "course_skills"]
    enrollment := some { scope := .activeAndArchived } }

theorem compile_lines_up_skills :
    ∃ r, Report.compile (Records.directory { session := archivist }) .complete onSkills archivist
        .snowflake {} = .ok r ∧
      onSkills.type.supportsArchive = true ∧
      (BranchChoice.ofDefinition onSkills archivist).union = true ∧
      ∃ ctx, Gathered (m := Outcome) (Records.directory { session := archivist }) .complete onSkills
          archivist true ctx ∧
        r.sql = Sql.Dialect.snowflake.renderQuery (Query.ofContext ctx 0 {}) ∧
        LinedUp ctx .snowflake (.ofDefinition onSkills archivist) (Query.ofContext ctx 0 {}) := by
  obtain ⟨r, hr⟩ : ∃ r, Report.compile (Records.directory { session := archivist }) .complete
      onSkills archivist .snowflake {} = .ok r := ⟨_, rfl⟩
  have hreturn : CanReturn (Report.compile (m := Outcome)
      (Records.directory { session := archivist }) .complete onSkills archivist .snowflake {}) r :=
    hr
  exact ⟨r, hr, rfl, rfl, compile_lines_up rfl hreturn⟩

end LearningReports
