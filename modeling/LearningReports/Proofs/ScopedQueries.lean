import LearningReports.Proofs.BaseScopes
import LearningReports.Proofs.UnitedBranches

/-! # Scoped queries

Every branch of a compiled report is well scoped: its base introduces the tables that all columns
know, and each column joins the others that it needs before it names them. -/
namespace LearningReports

open MonadAttach (CanReturn)
open Sql (Expr Fragment Branch)

namespace Layout

variable {ctx : Context} {side : Side}

theorem areScoped_parts (hside : ctx.type.hasSide side = true) :
    Fragment.areScoped (ctx.type.known side)
      ((columns ctx).flatMap (·.2.parts side)) = true :=
  Fragment.areScoped_flatMap fun _ hkc => (Column.fits_iff.mp (fits_of_mem_columns hkc hside)).1

theorem areScoped_selection (hside : ctx.type.hasSide side = true) :
    Fragment.areScoped
      (((columns ctx).flatMap (·.2.parts side)).flatMap Fragment.handles ++ ctx.type.known side)
      (selection ctx (·.on side)) = true := by
  refine Fragment.areScoped_of_forall fun f hf => ?_
  unfold selection at hf
  split at hf
  · cases List.mem_singleton.mp hf
    rfl
  · obtain ⟨⟨key, c⟩, hkc, rfl⟩ := List.mem_map.mp hf
    obtain ⟨-, hon, -⟩ := Column.fits_iff.mp (fits_of_mem_columns hkc hside)
    refine Expr.isScoped_mono ?_ hon
    refine List.append_subset.mpr ⟨fun handle hhandle => ?_, List.subset_append_right _ _⟩
    obtain ⟨g, hg, hhandle⟩ := List.mem_flatMap.mp hhandle
    exact List.mem_append_left _ (List.mem_flatMap.mpr
      ⟨g, List.mem_flatMap.mpr ⟨_, hkc, hg⟩, hhandle⟩)

/-- Columns start no source, so whatever a branch starts comes from the base. -/
theorem started_parts (ctx : Context) (side : Side) :
    ((columns ctx).flatMap (·.2.parts side)).filterMap Fragment.started? = [] := by
  refine List.filterMap_eq_nil_iff.mpr fun f hf => ?_
  have hsupport := isSupport_of_mem_parts hf
  cases f with
  | source => cases hsupport
  | _ => rfl

theorem mem_selection {f : Fragment} {expr : Column → Expr} (h : f ∈ selection ctx expr) :
    f.started? = none ∧ f.key? = none := by
  unfold selection at h
  split at h
  · cases List.mem_singleton.mp h
    exact ⟨rfl, rfl⟩
  · obtain ⟨kc, -, rfl⟩ := List.mem_map.mp h
    exact ⟨rfl, rfl⟩

theorem wellScoped_branch (hside : ctx.type.hasSide side = true) :
    (branch ctx side).WellScoped := by
  have hopens := opens_base ctx hside
  have hstarted : (selection ctx (·.on side)).filterMap Fragment.started? = [] :=
    List.filterMap_eq_nil_iff.mpr fun f hf => (mem_selection hf).1
  have hkeys : (selection ctx (·.on side)).filterMap Fragment.key? = [] :=
    List.filterMap_eq_nil_iff.mpr fun f hf => (mem_selection hf).2
  rw [branch_eq, List.append_assoc]
  apply Branch.wellScoped_ofFragments
  · refine Fragment.areScoped_append hopens.inScope ?_
    rw [List.append_nil]
    refine Fragment.areScoped_append
      (Fragment.areScoped_mono hopens.known (areScoped_parts hside)) ?_
    refine Fragment.areScoped_mono ?_ (areScoped_selection hside)
    exact List.append_subset.mpr ⟨List.subset_append_left _ _,
      List.subset_append_of_subset_right _ hopens.known⟩
  · simp only [List.filterMap_append, started_parts, hstarted, hkeys, List.append_nil]
    refine ⟨hopens.distinct, fun key hkey hbase => ?_⟩
    rcases List.mem_append.mp hkey with hkey | hkey
    · exact hopens.keys key hkey (hopens.reserved hbase)
    · obtain ⟨f, hf, hkey⟩ := List.mem_filterMap.mp hkey
      obtain ⟨kc, hkc, hf⟩ := List.mem_flatMap.mp hf
      obtain ⟨-, -, hnew⟩ := Column.fits_iff.mp (fits_of_mem_columns hkc hside)
      exact hnew f hf key hkey (hopens.reserved hbase)

end Layout

namespace Query

/-- The branches of the query are well scoped, its named queries are scopes of their own, and the
order of the rows names no table. -/
structure WellScoped (q : Query) : Prop where
  branches : ∀ b ∈ q.branches, b.WellScoped
  definitions : ∀ n ∈ q.definitions, n.2.isScoped = true
  order : ∀ o ∈ q.order, o.1.isScoped [] = true

theorem hasSide_of_emits {ctx : Context} {side : Side} (h : emits ctx side = true) :
    ctx.type.hasSide side = true := by
  cases side with
  | live => rfl
  | archive => exact supportsArchive_of_emits h

theorem isScoped_sortKey (ctx : Context) : (sortKey ctx).isScoped [] = true := by
  unfold sortKey
  dsimp only
  split
  · rfl
  · split <;> rfl

theorem wellScoped_ofContext (ctx : Context) (limit : Int) (use : ExportUse) :
    (ofContext ctx limit use).WellScoped := by
  have hbranches : ∀ b ∈ branchesOf ctx, b.WellScoped := by
    intro b hb
    obtain ⟨side, hemits, rfl⟩ := mem_branchesOf.mp hb
    exact Layout.wellScoped_branch (hasSide_of_emits hemits)
  refine ⟨hbranches, fun n hn => ?_, fun o ho => ?_⟩
  · obtain ⟨b, hb, hnb⟩ := exists_of_mem_definitionsOf hn
    exact (hbranches b hb).definitions n hnb
  · change o ∈ (if use.isPreview then none else some (sortKey ctx, _)) at ho
    split at ho
    · cases ho
    · cases ho
      exact isScoped_sortKey ctx

end Query

section Service

variable {m : Type → Type} [Monad m] [MonadExceptOf Failure m] [MonadAttach m] [LawfulService m]

/-- Every compiled report is the text of a well scoped query. -/
theorem compile_is_well_scoped {dir : Directory m} {w : Warehouse} {d : Definition} {s : Session}
    {engine : Sql.Dialect} {o : CompileOptions} {r : Compiled}
    (h : CanReturn (Report.compile dir w d s engine o) r) :
    ∃ ctx, Gathered dir w d s o.checkVisibility ctx ∧
      r.sql = engine.renderQuery (Query.ofContext ctx o.limit o.use) ∧
      (Query.ofContext ctx o.limit o.use).WellScoped := by
  obtain ⟨-, ctx, -, hctx, rfl⟩ := gathered_of_compile h
  exact ⟨ctx, hctx, rfl, Query.wellScoped_ofContext ctx o.limit o.use⟩

end Service

theorem compile_is_well_scoped_skills :
    ∃ r, Report.compile (Records.directory { session := archivist }) .complete onSkills archivist
        .athena {} = .ok r ∧
      ∃ ctx, Gathered (m := Outcome) (Records.directory { session := archivist }) .complete onSkills
          archivist true ctx ∧
        r.sql = Sql.Dialect.athena.renderQuery (Query.ofContext ctx 0 {}) ∧
        (Query.ofContext ctx 0 {}).WellScoped := by
  obtain ⟨r, hr⟩ : ∃ r, Report.compile (Records.directory { session := archivist }) .complete
      onSkills archivist .athena {} = .ok r := ⟨_, rfl⟩
  have hreturn : CanReturn (Report.compile (m := Outcome)
      (Records.directory { session := archivist }) .complete onSkills archivist .athena {}) r := hr
  exact ⟨r, hr, compile_is_well_scoped hreturn⟩

end LearningReports
