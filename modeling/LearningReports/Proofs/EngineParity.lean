import LearningReports.Proofs.Lockstep
import LearningReports.Proofs.UnitedBranches

/-! # Parity of engines

The text of a query is put together from pieces. Engines word expressions in their own ways, but
the pieces of one query stand in the same places for all of them, under the same names. -/
namespace LearningReports

open MonadAttach (CanReturn)

/-- The pieces of the text of a branch, and the keys of its joins. -/
structure BranchText where
  /-- The result columns with their labels. -/
  select : List (String × String)
  sources : List String
  joinKeys : List String
  restrictions : List String
  groupBy : List String

def BranchText.text (b : BranchText) : String :=
  "SELECT " ++ ", ".intercalate (b.select.map fun s => s.1 ++ " AS " ++ s.2)
    ++ " FROM " ++ " ".intercalate b.sources
    ++ " WHERE TRUE" ++ "".intercalate (b.restrictions.map (" " ++ ·))
    ++ Sql.Dialect.clause " GROUP BY " ", " b.groupBy

/-- The pieces of the text of a query. -/
structure QueryText where
  /-- The named queries. -/
  definitions : List (String × String)
  branches : List BranchText
  order : String
  limit : String

def QueryText.text (q : QueryText) : String :=
  let definitions := q.definitions.map fun n => n.1 ++ " AS (" ++ n.2 ++ ")"
  (if q.definitions.isEmpty then "" else "WITH " ++ ", ".intercalate definitions ++ " ")
    ++ " UNION ".intercalate (q.branches.map BranchText.text) ++ q.order ++ q.limit

/-- The branches join the same, from as many sources, and select under the same labels. -/
structure BranchText.Parallel (a b : BranchText) : Prop where
  joinKeys : a.joinKeys = b.joinKeys
  sources : a.sources.length = b.sources.length
  labels : a.select.map Prod.snd = b.select.map Prod.snd

/-- The queries have parallel branches and the same named queries, and order and limit their rows
by the same texts. -/
structure QueryText.Parallel (a b : QueryText) : Prop where
  names : a.definitions.map Prod.fst = b.definitions.map Prod.fst
  branches : List.Forall₂ BranchText.Parallel a.branches b.branches
  order : a.order = b.order
  limit : a.limit = b.limit

namespace Sql.Dialect

def branchText (d : Dialect) (b : Branch) : BranchText where
  select := b.select.map fun s => (d.render s.1, d.render s.2)
  sources := b.sources.map d.renderSource
  joinKeys := b.joinKeys
  restrictions := b.restrictions.map fun r => Text.trim (d.renderRestriction r)
  groupBy := b.groupBy.map d.render

def queryText (d : Dialect) (q : Query) : QueryText where
  definitions := q.definitions.map fun n => (n.1, d.renderBody n.2)
  branches := q.branches.map d.branchText
  order := d.renderOrder q.order
  limit := " LIMIT " ++ toString q.limit

theorem text_branchText (d : Dialect) (b : Branch) : (d.branchText b).text = d.renderBranch b := by
  simp only [BranchText.text, branchText, renderBranch, List.map_map]
  rfl

theorem text_queryText (d : Dialect) (q : Query) : (d.queryText q).text = d.renderQuery q := by
  have hbranches : BranchText.text ∘ d.branchText = d.renderBranch := funext d.text_branchText
  simp only [QueryText.text, queryText, renderQuery, renderDefinitions, List.map_map, hbranches,
    List.isEmpty_map]
  exact (String.append_assoc ..).symm

variable {d d' : Dialect}

theorem parallel_branchText {b : Branch} (h : ∀ s ∈ b.select, d.render s.2 = d'.render s.2) :
    (d.branchText b).Parallel (d'.branchText b) where
  joinKeys := rfl
  sources := by simp only [branchText, List.length_map]
  labels := by
    simp only [branchText, List.map_map]
    exact List.map_congr_left h

theorem parallel_queryText {q : Query}
    (hlabels : ∀ b ∈ q.branches, ∀ s ∈ b.select, d.render s.2 = d'.render s.2)
    (horder : d.renderOrder q.order = d'.renderOrder q.order) :
    (d.queryText q).Parallel (d'.queryText q) where
  names := by simp only [queryText, List.map_map, Function.comp_def]
  branches := by
    simp only [queryText, List.forall₂_map_left_iff, List.forall₂_map_right_iff]
    exact List.forall₂_same.mpr fun b hb => parallel_branchText (hlabels b hb)
  order := horder
  limit := rfl

end Sql.Dialect

/-! ## Queries of reports -/

namespace Query

variable (d d' : Sql.Dialect) (ctx : Context)

theorem render_label {b : Sql.Branch} (hb : b ∈ branchesOf ctx) :
    ∀ s ∈ b.select, d.render s.2 = d'.render s.2 := by
  intro s hs
  obtain ⟨side, -, rfl⟩ := mem_branchesOf.mp hb
  have hlabel := List.mem_map_of_mem (f := Prod.snd) hs
  rw [labels_branch] at hlabel
  split at hlabel
  · rw [List.mem_singleton.mp hlabel]
    rfl
  · obtain ⟨kc, -, hkc⟩ := List.mem_map.mp hlabel
    rw [← hkc]
    rfl

theorem render_sortKey : d.render (sortKey ctx) = d'.render (sortKey ctx) := by
  unfold sortKey
  dsimp only
  split
  · rfl
  · split <;> rfl

theorem parallel_ofContext (limit : Int) (use : ExportUse) :
    (d.queryText (ofContext ctx limit use)).Parallel (d'.queryText (ofContext ctx limit use)) := by
  refine Sql.Dialect.parallel_queryText (fun b hb => render_label d d' ctx hb) ?_
  unfold ofContext
  dsimp only
  split
  · rfl
  · simp only [Sql.Dialect.renderOrder, render_sortKey d d' ctx]

end Query

section Service

variable {m : Type → Type} [Monad m] [MonadExceptOf Failure m] [MonadAttach m] [LawfulService m]

/-- For an engine of its type, a report is compiled by gathering its context, and by nothing that
could fail after that. -/
theorem Report.compile_eq {dir : Directory m} {w : Warehouse} {d : Definition} {s : Session}
    {engine : Sql.Dialect} (o : CompileOptions) (h : engine ∈ d.type.engines) :
    compile dir w d s engine o =
      (fun ctx => compiled ctx engine o) <$> Gather.context dir w d s o.checkVisibility := by
  have hchecked : checkEngine d.type engine = .ok () := if_pos h
  rw [compile, hchecked, map_eq_pure_bind]
  exact pure_bind _ _

/-- A report that both engines can run is compiled for both or for none, with the same columns and
with parallel queries. -/
theorem compile_engines_parallel {dir : Directory m} {w : Warehouse} {d : Definition} {s : Session}
    {o : CompileOptions} (hathena : .athena ∈ d.type.engines)
    (hsnowflake : .snowflake ∈ d.type.engines) :
    Together (Report.compile dir w d s .athena o) (Report.compile dir w d s .snowflake o)
      fun r r' => r.columns = r'.columns ∧ r.unmapped = r'.unmapped ∧ r.dropped = r'.dropped ∧
        ∃ ctx q, Gathered dir w d s o.checkVisibility ctx ∧ q = Query.ofContext ctx o.limit o.use ∧
          r.sql = (Sql.Dialect.athena.queryText q).text ∧
          r'.sql = (Sql.Dialect.snowflake.queryText q).text ∧
          (Sql.Dialect.athena.queryText q).Parallel (Sql.Dialect.snowflake.queryText q) := by
  rw [Report.compile_eq o hathena, Report.compile_eq o hsnowflake]
  refine .of_map _ fun ctx hctx =>
    ⟨rfl, rfl, rfl, ctx, _, gathered_of_context hctx, rfl, ?_, ?_, ?_⟩
  · rw [Sql.Dialect.text_queryText]
    rfl
  · rw [Sql.Dialect.text_queryText]
    rfl
  · exact Query.parallel_ofContext _ _ ctx _ _

end Service

theorem compile_engines_parallel_skills :
    .athena ∈ onSkills.type.engines ∧ .snowflake ∈ onSkills.type.engines ∧
      ∃ r r', Report.compile (Records.directory { session := archivist }) .complete onSkills
          archivist .athena {} = .ok r ∧
        Report.compile (Records.directory { session := archivist }) .complete onSkills archivist
          .snowflake {} = .ok r' ∧
        r.columns = r'.columns ∧ r.unmapped = r'.unmapped ∧ r.dropped = r'.dropped ∧
        ∃ ctx q, Gathered (m := Outcome) (Records.directory { session := archivist }) .complete
            onSkills archivist true ctx ∧
          q = Query.ofContext ctx 0 {} ∧ r.sql = (Sql.Dialect.athena.queryText q).text ∧
          r'.sql = (Sql.Dialect.snowflake.queryText q).text ∧
          (Sql.Dialect.athena.queryText q).Parallel (Sql.Dialect.snowflake.queryText q) := by
  have htogether : Together (Report.compile (m := Outcome)
      (Records.directory { session := archivist }) .complete onSkills archivist .athena {})
      (Report.compile (Records.directory { session := archivist }) .complete onSkills archivist
        .snowflake {}) _ :=
    compile_engines_parallel (by decide) (by decide)
  exact ⟨by decide, by decide, _, _, rfl, rfl, htogether.of_ok rfl rfl⟩

end LearningReports
