import LearningReports.Proofs.Accounting
import LearningReports.Proofs.Lockstep
import LearningReports.Proofs.UnitedBranches

/-! # Reports on active enrollments

A report on active enrollments has the live branch alone, and the live branch knows nothing of the
archive. So it makes no difference to such a report whether the platform archives enrollments, and
where it archives none, every report is on active enrollments. -/
namespace LearningReports

open MonadAttach (CanReturn)

/-- The definition with another scope of its enrollment filter and other archiving dates. -/
def Definition.rescoped (d : Definition) (scope : EnrollmentScope)
    (archivingDate : Option DateOption) : Definition :=
  { d with
    enrollment := d.enrollment.map fun f => { f with scope := scope }
    archivingDate := archivingDate }

def Session.toggled (s : Session) (toggles : List String) : Session :=
  { s with platform := { s.platform with toggles := toggles } }

theorem Definition.rescoped_self (d : Definition) :
    d.rescoped (BranchChoice.scopeOf d) d.archivingDate = d := by
  have hscope : d.enrollment.map (fun f => { f with scope := BranchChoice.scopeOf d }) =
      d.enrollment := by
    unfold BranchChoice.scopeOf
    cases d.enrollment with
    | _ => rfl
  rw [rescoped, hscope]

/-! ## The live branch -/

section Live

variable (ctx : Context) (scope : EnrollmentScope) (archivingDate : Option DateOption)
  (toggles : List String)

/-- The context of a report with another scope, other archiving dates and other toggles. -/
def Context.rescoped : Context :=
  { ctx with
    definition := ctx.definition.rescoped scope archivingDate
    session := ctx.session.toggled toggles }

theorem standard_rescoped {t : ReportType} {f : Field} {build : Builder}
    (h : t.column? f = some build) :
    build (ctx.rescoped scope archivingDate toggles) = build ctx := by
  refine t.eq_of_map_builders (v := fun b => b (ctx.rescoped scope archivingDate toggles))
    (w := fun b => b ctx) h ?_
  cases t with
  | _ => rfl

theorem customColumn_rescoped (t : ReportType) (r : ResolvedField) :
    t.customColumn (ctx.rescoped scope archivingDate toggles) r = t.customColumn ctx r := by
  cases t with
  | _ => rfl

theorem live_base_rescoped :
    ((ctx.rescoped scope archivingDate toggles).type.base
      (ctx.rescoped scope archivingDate toggles)).live = (ctx.type.base ctx).live := by
  change (ctx.type.base (ctx.rescoped scope archivingDate toggles)).live = _
  cases ctx.type with
  | usersCourses =>
    have hstatus : EnrollmentColumns.statusFilter
        (ctx.rescoped scope archivingDate toggles).definition.enrollment =
          EnrollmentColumns.statusFilter ctx.definition.enrollment := by
      change EnrollmentColumns.statusFilter (ctx.definition.enrollment.map _) = _
      cases ctx.definition.enrollment with
      | _ => rfl
    change UsersCourses.live _ = UsersCourses.live ctx
    unfold UsersCourses.live
    rw [hstatus]
    rfl
  | classroomSessions =>
    have hstatus : ClassroomSessions.statusFilter
        (ctx.rescoped scope archivingDate toggles).definition.enrollment =
          ClassroomSessions.statusFilter ctx.definition.enrollment := by
      change ClassroomSessions.statusFilter (ctx.definition.enrollment.map _) = _
      cases ctx.definition.enrollment with
      | _ => rfl
    change ClassroomSessions.live _ = ClassroomSessions.live ctx
    unfold ClassroomSessions.live
    rw [hstatus]
    rfl
  | _ => rfl

namespace Layout

variable (hdropped : ∀ text ∈ ctx.definition.fields,
  isDropped (ctx.rescoped scope archivingDate toggles) text = isDropped ctx text)
include hdropped

theorem fates_rescoped : fates (ctx.rescoped scope archivingDate toggles) = fates ctx := by
  refine List.map_congr_left fun text htext => congrArg (Prod.mk text) ?_
  exact fate_congr rfl rfl (hdropped text htext) (customColumn_rescoped ctx _ _ _ _)
    (standard_rescoped ctx scope archivingDate toggles)

theorem columns_rescoped : columns (ctx.rescoped scope archivingDate toggles) = columns ctx := by
  unfold columns
  rw [fates_rescoped ctx scope archivingDate toggles hdropped]

theorem live_rescoped : live (ctx.rescoped scope archivingDate toggles) = live ctx := by
  unfold live liveFragments selection
  rw [live_base_rescoped, columns_rescoped ctx scope archivingDate toggles hdropped]
  rfl

end Layout

/-- A report with nothing but its live branch is the same whatever the scope, the archiving dates
and the toggles, as long as the same fields are dropped. -/
theorem Report.compiled_rescoped
    (hdropped : ∀ text ∈ ctx.definition.fields, Layout.isDropped
      (ctx.rescoped scope archivingDate toggles) text = Layout.isDropped ctx text)
    (hlive : Query.choice ctx = .liveOnly)
    (hlive' : Query.choice (ctx.rescoped scope archivingDate toggles) = .liveOnly)
    (engine : Sql.Dialect) (o : CompileOptions) :
    compiled (ctx.rescoped scope archivingDate toggles) engine o = compiled ctx engine o := by
  have hcolumns := Layout.columns_rescoped ctx scope archivingDate toggles hdropped
  have hbranches : Query.branchesOf (ctx.rescoped scope archivingDate toggles) =
      Query.branchesOf ctx := by
    rw [Query.branchesOf, Query.branchesOf, hlive, hlive',
      Layout.live_rescoped ctx scope archivingDate toggles hdropped]
    rfl
  have hsort : Query.sortKey (ctx.rescoped scope archivingDate toggles) = Query.sortKey ctx := by
    unfold Query.sortKey Query.hasColumn
    rw [hcolumns]
    rfl
  have hquery : Query.ofContext (ctx.rescoped scope archivingDate toggles) o.limit o.use =
      Query.ofContext ctx o.limit o.use := by
    unfold Query.ofContext Query.definitionsOf
    rw [hbranches, hsort]
    rfl
  unfold compiled Layout.labels Layout.unmapped Layout.dropped
  rw [hquery, hcolumns, Layout.fates_rescoped ctx scope archivingDate toggles hdropped]
  rfl

end Live

/-! ## Switching the archive on -/

/-- No selected field depends on the archive. -/
def Definition.NeedsNoArchive (d : Definition) : Prop :=
  ∀ text ∈ d.fields, (Field.ofId? text).bind d.type.gate? ≠ some .archivedEnrollments

def SameButArchive (toggles toggles' : List String) : Prop :=
  ∀ name, name ≠ Feature.archivedEnrollments.name → (name ∈ toggles ↔ name ∈ toggles')

theorem Feature.name_injective {f g : Feature} (h : f.name = g.name) : f = g := by
  cases f <;> cases g <;> first | rfl | (exact absurd h (by decide))

theorem Platform.hasFeature_congr {p : Platform} {toggles : List String}
    (h : SameButArchive p.toggles toggles) {f : Feature} (hf : f ≠ .archivedEnrollments) :
    Platform.hasFeature { p with toggles := toggles } f = p.hasFeature f := by
  have hname : f.name ≠ Feature.archivedEnrollments.name := fun hname =>
    hf (Feature.name_injective hname)
  have hcontains : toggles.contains f.name = p.toggles.contains f.name := by
    rw [Bool.eq_iff_iff, List.contains_iff_mem, List.contains_iff_mem]
    exact (h _ hname).symm
  unfold hasFeature isEnabled
  dsimp only
  rw [hcontains]

theorem isGatedOff_congr {t : ReportType} {p : Platform} {toggles : List String} {text : String}
    (h : SameButArchive p.toggles toggles)
    (htext : (Field.ofId? text).bind t.gate? ≠ some .archivedEnrollments) :
    isGatedOff t { p with toggles := toggles } text = isGatedOff t p text := by
  unfold isGatedOff
  cases hgate : (Field.ofId? text).bind t.gate? with
  | none => rfl
  | some f => exact congrArg (!·) (Platform.hasFeature_congr h fun hf => htext (hf ▸ hgate))

section Service

variable {m : Type → Type} [Monad m] [MonadExceptOf Failure m]

/-- What is asked for depends neither on the scope and the archiving dates nor on the toggles. -/
theorem Gather.context_rescoped [LawfulMonad m] (dir : Directory m) (w : Warehouse) (d : Definition)
    (s : Session) (checkVisibility : Bool) (scope : EnrollmentScope)
    (archivingDate : Option DateOption) (toggles : List String) :
    context dir w (d.rescoped scope archivingDate) (s.toggled toggles) checkVisibility =
      (fun ctx => { ctx with
        definition := d.rescoped scope archivingDate, session := s.toggled toggles }) <$>
        context dir w d s checkVisibility :=
  context_of_asksSame w d (d.rescoped scope archivingDate) s (s.toggled toggles) rfl rfl rfl rfl rfl
    fun _ _ _ => rfl

variable [MonadAttach m] [LawfulService m]

theorem Query.choice_of_liveOnly {ctx : Context}
    (h : BranchChoice.ofDefinition ctx.definition ctx.session = .liveOnly) :
    choice ctx = .liveOnly := by
  unfold choice
  split
  · exact h
  · rfl

theorem Report.compile_rescoped {dir : Directory m} {w : Warehouse} {d : Definition} {s : Session}
    {engine : Sql.Dialect} {o : CompileOptions} (scope : EnrollmentScope)
    (archivingDate : Option DateOption) (toggles : List String)
    (hgates : ∀ text ∈ d.fields, isGatedOff d.type (s.toggled toggles).platform text =
      isGatedOff d.type s.platform text)
    (hlive : BranchChoice.ofDefinition d s = .liveOnly)
    (hlive' : BranchChoice.ofDefinition (d.rescoped scope archivingDate) (s.toggled toggles) =
      .liveOnly) :
    compile dir w (d.rescoped scope archivingDate) (s.toggled toggles) engine o =
      compile dir w d s engine o := by
  unfold compile
  rw [Gather.context_rescoped]
  refine bind_congr fun _ => ?_
  rw [bind_map_left]
  refine bind_congr_of_canReturn fun ctx hctx => congrArg Pure.pure ?_
  obtain ⟨hdefinition, hsession, -⟩ := gathered_of_context hctx
  subst hdefinition hsession
  refine compiled_rescoped ctx scope archivingDate toggles (fun text htext => ?_)
    (Query.choice_of_liveOnly hlive) (Query.choice_of_liveOnly hlive') engine o
  rw [isDropped_eq, isDropped_eq]
  exact hgates text htext

/-- A report on active enrollments that selects nothing of the archive is compiled to the same
whether the platform archives enrollments or not. Where it archives none, neither the scope of a
report nor its archiving dates count. -/
theorem compile_ignores_archive {dir : Directory m} {w : Warehouse} {d : Definition} {s : Session}
    {engine : Sql.Dialect} {o : CompileOptions} :
    (∀ toggles, SameButArchive s.platform.toggles toggles → BranchChoice.scopeOf d = .active →
      d.NeedsNoArchive → Report.compile dir w d (s.toggled toggles) engine o =
        Report.compile dir w d s engine o) ∧
    (s.platform.hasArchive = false → ∀ scope archivingDate,
      Report.compile dir w (d.rescoped scope archivingDate) s engine o =
        Report.compile dir w d s engine o) := by
  constructor
  · intro toggles htoggles hactive hneeds
    have hlive (s : Session) : BranchChoice.ofDefinition d s = .liveOnly := by
      simp [BranchChoice.ofDefinition, BranchChoice.liveOnly, hactive]
    have hsame : Report.compile dir w (d.rescoped (BranchChoice.scopeOf d) d.archivingDate)
        (s.toggled toggles) engine o = Report.compile dir w d s engine o := by
      refine Report.compile_rescoped _ _ _ (fun text htext => ?_) (hlive s) ?_
      · exact isGatedOff_congr htoggles (hneeds text htext)
      · rw [d.rescoped_self]
        exact hlive _
    rw [d.rescoped_self] at hsame
    exact hsame
  · intro hoff scope archivingDate
    have hlive (d : Definition) : BranchChoice.ofDefinition d s = .liveOnly :=
      BranchChoice.ofDefinition_of_not_hasArchive hoff
    exact Report.compile_rescoped scope archivingDate s.platform.toggles (fun _ _ => rfl) (hlive d)
      (hlive _)

end Service

def onActive : Definition :=
  { idReport := "", type := .usersCourses, fields := ["user_userid", "course_name"]
    enrollment := some { scope := .active }
    archivingDate := some { isAny := false, type := "range", operator := "range" } }

theorem compile_ignores_archive_switched :
    SameButArchive archivist.platform.toggles [] ∧ BranchChoice.scopeOf onActive = .active ∧
      onActive.NeedsNoArchive ∧ (archivist.toggled []).platform.hasArchive = false ∧
      archivist.platform.hasArchive = true ∧ ∃ r,
        Report.compile (Records.directory { session := archivist }) .complete onActive archivist
          .athena {} = .ok r ∧
        Report.compile (Records.directory { session := archivist }) .complete onActive
          (archivist.toggled []) .athena {} = .ok r ∧
        Report.compile (Records.directory { session := archivist }) .complete
          (onActive.rescoped .archived none) (archivist.toggled []) .athena {} = .ok r := by
  have htoggles : SameButArchive archivist.platform.toggles [] := by
    intro name hname
    exact ⟨fun h => absurd (List.mem_singleton.mp h) hname, fun h => absurd h List.not_mem_nil⟩
  have hneeds : onActive.NeedsNoArchive := by
    unfold Definition.NeedsNoArchive
    decide
  obtain ⟨r, hr⟩ : ∃ r, Report.compile (Records.directory { session := archivist }) .complete
      onActive archivist .athena {} = .ok r := ⟨_, rfl⟩
  have hoff : Report.compile (Records.directory { session := archivist }) .complete onActive
      (archivist.toggled []) .athena {} = .ok r :=
    (compile_ignores_archive.1 [] htoggles rfl hneeds).trans hr
  exact ⟨htoggles, rfl, hneeds, rfl, rfl, r, hr, hoff,
    (compile_ignores_archive.2 rfl .archived none).trans hoff⟩

end LearningReports
