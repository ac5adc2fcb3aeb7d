import LearningReports.Proofs.FragmentRuns
import LearningReports.Proofs.NarrowedContexts
import LearningReports.Proofs.SharedRequests

/-! # Independent columns

Each field of a report makes its column without regard to the others. A report on several fields
has the columns of the reports on one of them each, and its branches unite the sources, named
queries and grouping keys of theirs. -/
namespace LearningReports

open Sql (Expr Fragment Branch Source Body)

/-! ## What a branch has besides its columns -/

namespace Sql

/-- What a branch is made of besides its result columns and conditions. -/
inductive Content where
  | source (s : Source)
  | named (n : String × Body)
  | key (e : Expr)

def Branch.Has (b : Branch) : Content → Prop
  | .source s => s ∈ b.sources
  | .named n => n ∈ b.definitions
  | .key e => e ∈ b.groupBy

def Fragment.Brings (f : Fragment) : Content → Prop
  | .source s => s ∈ f.sources
  | .named n => f = .define n.1 n.2
  | .key e => ∃ keys, f = .groupBy keys ∧ e ∈ keys

theorem Branch.mem_groupBy_ofFragments {fs : List Fragment} {e : Expr} :
    e ∈ (ofFragments fs).groupBy ↔ ∃ f ∈ fs, f.Brings (.key e) := by
  rw [groupBy_ofFragments, List.mem_eraseDups, List.mem_flatMap]
  refine exists_congr fun f => and_congr_right fun _ => ?_
  cases f <;> simp [Fragment.groupKeys, Fragment.Brings]

end Sql

/-- A branch has what is asked for, and nothing else. -/
theorem Layout.has_branch_iff {ctx : Context} (hkeys : ctx.HasOwnKeys) {side : Side}
    {c : Sql.Content} : (branch ctx side).Has c ↔ ∃ p ∈ requests ctx side, p.Brings c := by
  cases c with
  | source s => exact mem_sources_branch hkeys
  | named n =>
    refine mem_definitions_branch.trans ⟨fun h => ⟨_, h, rfl⟩, ?_⟩
    rintro ⟨p, hp, rfl⟩
    exact hp
  | key e =>
    change e ∈ (branch ctx side).groupBy ↔ _
    rw [branch_of_requests, Branch.mem_groupBy_ofFragments]
    constructor
    · rintro ⟨p, hp, hkey⟩
      refine ⟨p, (List.mem_append.mp hp).resolve_right fun hselect => ?_, hkey⟩
      obtain ⟨e', a, rfl⟩ := eq_select_of_mem_selection hselect
      obtain ⟨keys, heq, -⟩ := hkey
      cases heq
    · rintro ⟨p, hp, hkey⟩
      exact ⟨p, List.mem_append_left _ hp, hkey⟩

/-! ## One field and many -/

/-- The column of the field brings the content to a side. -/
def Context.Gives (ctx : Context) (side : Side) (c : Sql.Content) (text : String) : Prop :=
  classOf ctx text = .emitted ∧ ∃ p ∈ (columnOf ctx text).parts side, p.Brings c

/-- The base of the report brings the content to a side. -/
def Context.Starts (ctx : Context) (side : Side) (c : Sql.Content) : Prop :=
  ∃ p ∈ (ctx.type.base ctx).side side, p.Brings c

theorem Context.narrows_self (ctx : Context) : ctx.Narrows ctx.definition.fields ctx :=
  ⟨rfl, rfl, fun _ _ => rfl⟩

namespace Layout

variable {ctx ctx' : Context} {fields : List String} {side : Side}

/-- The columns for some of the fields are those that the fields have among all others. -/
theorem columns_of_narrows (h : ctx.Narrows fields ctx') : columns ctx' =
    (fields.filter fun text => classOf ctx text = .emitted).map fun text =>
      (columnKey text, columnOf ctx text) := by
  have hfields : fieldsOf ctx' .emitted =
      fields.filter fun text => classOf ctx text = .emitted := by
    rw [fieldsOf, h.selects]
    exact List.filter_congr fun text htext => by rw [h.classOf_eq htext]
  rw [columns_eq, hfields]
  refine List.map_congr_left fun text htext => ?_
  rw [h.columnOf_eq (List.mem_of_mem_filter htext)]

theorem has_branch_of_narrows (hkeys : ctx'.HasOwnKeys) (h : ctx.Narrows fields ctx')
    {c : Sql.Content} :
    (branch ctx' side).Has c ↔ ctx.Starts side c ∨ ∃ text ∈ fields, ctx.Gives side c text := by
  have hcolumns (p : Fragment) : p ∈ (columns ctx').flatMap (·.2.parts side) ↔
      ∃ text ∈ fields, classOf ctx text = .emitted ∧ p ∈ (columnOf ctx text).parts side := by
    simp [columns_of_narrows h, and_assoc]
  rw [has_branch_iff hkeys]
  simp only [requests, List.mem_append, hcolumns, base_eq_of_view h.view]
  constructor
  · rintro ⟨p, hbase | ⟨text, htext, hclass, hp⟩, hc⟩
    · exact .inl ⟨p, hbase, hc⟩
    · exact .inr ⟨text, htext, hclass, p, hp, hc⟩
  · rintro (⟨p, hbase, hc⟩ | ⟨text, htext, hclass, p, hp, hc⟩)
    · exact ⟨p, .inl hbase, hc⟩
    · exact ⟨p, .inr ⟨text, htext, hclass, hp⟩, hc⟩

theorem select_of_narrows {text : String} (h : ctx.Narrows [text] ctx')
    (hclass : classOf ctx text = .emitted) :
    (branch ctx' side).select.map Prod.fst = [(columnOf ctx text).on side] := by
  have hcolumns : columns ctx' = [(columnKey text, columnOf ctx text)] := by
    rw [columns_of_narrows h]
    simp [hclass]
  rw [select_branch, hcolumns]
  rfl

end Layout

/-! ## The theorem -/

/-- The report is compiled from the context that is gathered for it. -/
structure CompiledFrom (dir : Directory Outcome) (w : Warehouse) (d : Definition) (s : Session)
    (engine : Sql.Dialect) (o : CompileOptions) (ctx : Context) : Prop where
  gathered : Gather.context dir w d s o.checkVisibility = .ok ctx
  compiled : Report.compile dir w d s engine o = .ok (Report.compiled ctx engine o)

/-- The report has the columns of the reports on one of its fields each, and what these have
besides. Without fields it has only what its base has. -/
structure Composed (alone : String → Context → Prop) (ctx : Context) : Prop where
  compiled : ∀ text ∈ ctx.definition.fields, ∃ c, alone text c
  classes : ∀ text ∈ ctx.definition.fields, ∀ c, alone text c →
    classOf c text = classOf ctx text ∧ ∀ side, Query.emits c side = Query.emits ctx side
  selected : fieldsOf ctx .emitted ≠ [] → ∀ side, (Layout.branch ctx side).select.map Prod.fst =
    (fieldsOf ctx .emitted).map fun text => (columnOf ctx text).on side
  single : ∀ text ∈ fieldsOf ctx .emitted, ∀ c, alone text c → ∀ side,
    (Layout.branch c side).select.map Prod.fst = [(columnOf ctx text).on side]
  united : ctx.definition.fields ≠ [] → ∀ side content, (Layout.branch ctx side).Has content ↔
    ∃ text ∈ ctx.definition.fields, ∃ c, alone text c ∧ (Layout.branch c side).Has content
  bare : ctx.definition.fields = [] → ∀ side content, (Layout.branch ctx side).Has content ↔
    ctx.Starts side content

/-- The reports differ only in the order of their columns. -/
structure Reordered (ctx ctx' : Context) : Prop where
  emits : ∀ side, Query.emits ctx' side = Query.emits ctx side
  columns : (Layout.columns ctx').Perm (Layout.columns ctx)
  labels : (Layout.labels ctx').Perm (Layout.labels ctx)
  select : ∀ side, (Layout.branch ctx' side).select.Perm (Layout.branch ctx side).select
  same : ∀ side content, (Layout.branch ctx' side).Has content ↔
    (Layout.branch ctx side).Has content

section Compiled

variable {dir : Directory Outcome} {w : Warehouse} {d : Definition} {s : Session}
  {engine : Sql.Dialect} {o : CompileOptions} {ctx ctx' : Context} {fields : List String}

theorem CompiledFrom.hasOwnKeys (h : CompiledFrom dir w d s engine o ctx) : ctx.HasOwnKeys := by
  have hreturn : MonadAttach.CanReturn (Gather.context dir w d s o.checkVisibility) ctx :=
    h.gathered
  exact (gathered_of_context hreturn).hasOwnKeys

theorem CompiledFrom.definition_eq (h : CompiledFrom dir w d s engine o ctx) :
    ctx.definition = d :=
  (Gather.context_eq_ok_iff.mp h.gathered).definition

theorem compile_eq_ok_iff {r : Compiled} : Report.compile dir w d s engine o = .ok r ↔
    Report.checkEngine d.type engine = .ok () ∧
      ∃ ctx, Gather.context dir w d s o.checkVisibility = .ok ctx ∧
        Report.compiled ctx engine o = r := by
  unfold Report.compile
  simp only [Outcome.bind_eq_ok_iff, Outcome.lift_self]
  constructor
  · rintro ⟨u, hengine, ctx, hctx, h⟩
    exact ⟨hengine, ctx, hctx, Except.ok.inj h⟩
  · rintro ⟨hengine, ctx, hctx, rfl⟩
    exact ⟨(), hengine, ctx, hctx, rfl⟩

theorem compiledFrom_of_context (hengine : Report.checkEngine d.type engine = .ok ())
    (h : Gather.context dir w d s o.checkVisibility = .ok ctx) :
    CompiledFrom dir w d s engine o ctx :=
  ⟨h, compile_eq_ok_iff.mpr ⟨hengine, ctx, h, rfl⟩⟩

theorem CompiledFrom.of_subset (hdir : dir.WordsByKey)
    (hengine : Report.checkEngine d.type engine = .ok ())
    (h : CompiledFrom dir w d s engine o ctx) (hsub : fields ⊆ d.fields) :
    ∃ c, CompiledFrom dir w (d.withFields fields) s engine o c ∧ ctx.Narrows fields c := by
  obtain ⟨c, hc, hnarrows⟩ := Gather.context_of_subset hdir h.gathered hsub
  exact ⟨c, compiledFrom_of_context hengine hc, hnarrows⟩

theorem CompiledFrom.narrows (hdir : dir.WordsByKey) (h : CompiledFrom dir w d s engine o ctx)
    (hsub : fields ⊆ d.fields) (h' : CompiledFrom dir w (d.withFields fields) s engine o ctx') :
    ctx.Narrows fields ctx' := by
  obtain ⟨c, hc, hnarrows⟩ := Gather.context_of_subset hdir h.gathered hsub
  cases Except.ok.inj (h'.gathered.symm.trans hc)
  exact hnarrows

theorem CompiledFrom.composed (hdir : dir.WordsByKey)
    (hengine : Report.checkEngine d.type engine = .ok ())
    (h : CompiledFrom dir w d s engine o ctx) :
    Composed (fun text => CompiledFrom dir w (d.withFields [text]) s engine o) ctx := by
  have hfields : ctx.definition.fields = d.fields := congrArg Definition.fields h.definition_eq
  have hsub {text : String} (htext : text ∈ ctx.definition.fields) : [text] ⊆ d.fields :=
    List.cons_subset.mpr ⟨hfields ▸ htext, List.nil_subset _⟩
  have hself {side : Side} {content : Sql.Content} : (Layout.branch ctx side).Has content ↔
      ctx.Starts side content ∨ ∃ text ∈ ctx.definition.fields, ctx.Gives side content text :=
    Layout.has_branch_of_narrows h.hasOwnKeys ctx.narrows_self
  constructor
  case compiled =>
    intro text htext
    obtain ⟨c, hc, -⟩ := h.of_subset hdir hengine (hsub htext)
    exact ⟨c, hc⟩
  case classes =>
    intro text htext c hc
    have hnarrows := h.narrows hdir (hsub htext) hc
    exact ⟨hnarrows.classOf_eq List.mem_cons_self, Query.emits_eq_of_view hnarrows.view⟩
  case selected =>
    intro hsome side
    have hcolumns : Layout.columns ctx ≠ [] := by
      rwa [columns_eq, ne_eq, List.map_eq_nil_iff]
    rw [select_branch, if_neg hcolumns, columns_eq, List.map_map, List.map_map]
    rfl
  case single =>
    intro text htext c hc side
    obtain ⟨hmem, hclass⟩ := mem_fieldsOf.mp htext
    exact Layout.select_of_narrows (h.narrows hdir (hsub hmem) hc) hclass
  case united =>
    intro hsome side content
    rw [hself]
    constructor
    · rintro (hstarts | ⟨text, htext, hgives⟩)
      · obtain ⟨text, htext⟩ := List.exists_mem_of_ne_nil _ hsome
        obtain ⟨c, hc, hnarrows⟩ := h.of_subset hdir hengine (hsub htext)
        exact ⟨text, htext, c, hc,
          (Layout.has_branch_of_narrows hc.hasOwnKeys hnarrows).mpr (.inl hstarts)⟩
      · obtain ⟨c, hc, hnarrows⟩ := h.of_subset hdir hengine (hsub htext)
        exact ⟨text, htext, c, hc, (Layout.has_branch_of_narrows hc.hasOwnKeys hnarrows).mpr
          (.inr ⟨text, List.mem_cons_self, hgives⟩)⟩
    · rintro ⟨text, htext, c, hc, hhas⟩
      have hnarrows := h.narrows hdir (hsub htext) hc
      refine ((Layout.has_branch_of_narrows hc.hasOwnKeys hnarrows).mp hhas).imp_right ?_
      rintro ⟨text', htext', hgives⟩
      cases List.mem_singleton.mp htext'
      exact ⟨text, htext, hgives⟩
  case bare =>
    intro hnone side content
    rw [hself, hnone]
    exact or_iff_left fun ⟨_, htext, _⟩ => List.not_mem_nil htext

theorem CompiledFrom.reordered (hdir : dir.WordsByKey) (h : CompiledFrom dir w d s engine o ctx)
    (hperm : fields.Perm d.fields)
    (h' : CompiledFrom dir w (d.withFields fields) s engine o ctx') : Reordered ctx ctx' := by
  have hfields : ctx.definition.fields = d.fields := congrArg Definition.fields h.definition_eq
  have hnarrows := h.narrows hdir hperm.subset h'
  have hlabel := Gather.label_eq hdir h.gathered (fun _ => hperm.mem_iff) h'.gathered
  have hcolumns : (Layout.columns ctx').Perm (Layout.columns ctx) := by
    rw [Layout.columns_of_narrows hnarrows, Layout.columns_of_narrows ctx.narrows_self, hfields]
    exact (hperm.filter _).map _
  constructor
  case emits => exact Query.emits_eq_of_view hnarrows.view
  case columns => exact hcolumns
  case labels =>
    unfold Layout.labels
    simp only [hlabel]
    exact hcolumns.map _
  case select =>
    intro side
    rw [select_branch, select_branch]
    simp only [Layout.aliasOf, hlabel]
    split
    · next hnone =>
      rw [if_pos (List.nil_perm.mp (hnone ▸ hcolumns))]
    · next hsome =>
      have hsome' : Layout.columns ctx ≠ [] := fun hnone =>
        hsome (List.perm_nil.mp (hnone ▸ hcolumns))
      rw [if_neg hsome']
      exact hcolumns.map _
  case same =>
    intro side content
    rw [Layout.has_branch_of_narrows h'.hasOwnKeys hnarrows,
      Layout.has_branch_of_narrows h.hasOwnKeys ctx.narrows_self, hfields]
    simp only [hperm.mem_iff]

/-- Each column of a compiled report is that of the report on its field alone, the branches of the
report unite what those of the reports on single fields have, and an order of the fields decides on
nothing but the order of the columns. The directory is taken to word a key alike whichever keys are
asked for with it. -/
theorem compile_is_composed (hdir : dir.WordsByKey) {r : Compiled}
    (h : Report.compile dir w d s engine o = .ok r) :
    ∃ ctx, CompiledFrom dir w d s engine o ctx ∧ r = Report.compiled ctx engine o ∧
      Composed (fun text => CompiledFrom dir w (d.withFields [text]) s engine o) ctx ∧
      ∀ fields, fields.Perm d.fields →
        ∃ c, CompiledFrom dir w (d.withFields fields) s engine o c ∧ Reordered ctx c := by
  obtain ⟨hengine, ctx, hgathered, rfl⟩ := compile_eq_ok_iff.mp h
  have hctx : CompiledFrom dir w d s engine o ctx := ⟨hgathered, h⟩
  refine ⟨ctx, hctx, rfl, hctx.composed hdir hengine, fun fields hperm => ?_⟩
  obtain ⟨c, hc, -⟩ := hctx.of_subset hdir hengine hperm.subset
  exact ⟨c, hc, hctx.reordered hdir hperm hc⟩

end Compiled

theorem compile_is_composed_skills :
    (Records.directory { session := archivist }).WordsByKey ∧
      ∃ r, Report.compile (Records.directory { session := archivist }) .complete onSkills archivist
          .athena {} = .ok r ∧
        ∃ ctx, CompiledFrom (Records.directory { session := archivist }) .complete onSkills
            archivist .athena {} ctx ∧
          r = Report.compiled ctx .athena {} ∧
          Composed (fun text => CompiledFrom (Records.directory { session := archivist }) .complete
            (onSkills.withFields [text]) archivist .athena {}) ctx ∧
          ∀ fields, fields.Perm onSkills.fields →
            ∃ c, CompiledFrom (Records.directory { session := archivist }) .complete
                (onSkills.withFields fields) archivist .athena {} c ∧
              Reordered ctx c := by
  have hdir := Records.wordsByKey { session := archivist }
  obtain ⟨r, hr⟩ : ∃ r, Report.compile (Records.directory { session := archivist }) .complete
      onSkills archivist .athena {} = .ok r := ⟨_, rfl⟩
  exact ⟨hdir, r, hr, compile_is_composed hdir hr⟩

end LearningReports
