import LearningReports.Proofs.Returns
import LearningReports.Report.Compile

/-! # What a compilation rests on

A compiled report comes from a gathered context: every part of the context is an answer that the
directory can give to the question asked for it. -/
namespace LearningReports

open MonadAttach (CanReturn)

variable {m : Type → Type} [Monad m] [MonadExceptOf Failure m] [MonadAttach m]

/-- The filter of a kind is one that the selection of the kind can return. -/
def Answered (dir : Directory m) (d : Definition) (s : Session) (checkVisibility : Bool)
    (f : Filters) : FilterKind → Prop
  | .users => CanReturn (Selection.users dir d s checkVisibility) f.users
  | .courses => CanReturn (Selection.courses dir d s checkVisibility) f.courses
  | .plans => CanReturn (Selection.plans dir d s checkVisibility) f.plans
  | .sessions => f.sessions = Selection.pickedEntities d.sessions
  | .surveys => f.surveys = Selection.pickedEntities d.surveys
  | .assets => f.assets = Selection.assets d ∧ f.channels = Selection.channels d

structure Gathered (dir : Directory m) (w : Warehouse) (d : Definition) (s : Session)
    (checkVisibility : Bool) (ctx : Context) : Prop where
  definition : ctx.definition = d
  session : ctx.session = s
  wordings : CanReturn (dir.wordings (Gather.keys d) s.langCode) ctx.wordings
  custom : CanReturn (CustomFields.resolve dir w d.fields d.type.entities
    (Gather.fieldLabels d ctx.wordings)) { fields := ctx.customFields, labels := ctx.labels }
  filters : ∀ k ∈ d.type.filterKinds, Answered dir d s checkVisibility ctx.filters k
  userConditions : .users ∈ d.type.filterKinds →
    CanReturn (Selection.userConditions dir d) ctx.userConditions

omit [MonadAttach m] in
/-- Definitions and sessions that ask for the same gather the same: `f` only puts the one pair in
the place of the other. -/
theorem Gather.context_of_asksSame [LawfulMonad m] {dir : Directory m} (w : Warehouse)
    (d d' : Definition) (s s' : Session) {checkVisibility : Bool} (htype : d'.type = d.type)
    (hfields : d'.fields = d.fields) (hlang : s'.langCode = s.langCode)
    (hfilters : filters dir d' s' checkVisibility = filters dir d s checkVisibility)
    (hconditions : Selection.userConditions dir d' = Selection.userConditions dir d)
    {f : Context → Context} (hf : ∀ ctx, ctx.definition = d → ctx.session = s →
      f ctx = { ctx with definition := d', session := s' }) :
    context dir w d' s' checkVisibility = f <$> context dir w d s checkVisibility := by
  have hstandard : standardFields d' = standardFields d := by
    rw [standardFields, standardFields, hfields]
  have hkeys : keys d' = keys d := by rw [keys, keys, hstandard]
  have hlabels : fieldLabels d' = fieldLabels d := by
    funext wordings
    rw [fieldLabels, fieldLabels, hstandard]
  unfold context
  rw [htype, hfields, hlang, hfilters, hconditions, hkeys, hlabels]
  simp only [map_bind]
  refine bind_congr fun wordings => bind_congr fun custom => bind_congr fun filters => ?_
  split <;> simp only [map_bind, map_pure, hf]

variable [LawfulService m]

theorem answered_of_filtersOf {dir : Directory m} {d : Definition} {s : Session}
    {checkVisibility : Bool} {done f : Filters} {k : FilterKind}
    (h : CanReturn (Gather.filtersOf dir d s checkVisibility done k) f) :
    Answered dir d s checkVisibility f k ∧
      ∀ k', Answered dir d s checkVisibility done k' → Answered dir d s checkVisibility f k' := by
  cases k with
  | users =>
    obtain ⟨u, hu, hf⟩ := Returns.of_bind h
    cases Returns.of_pure hf
    exact ⟨hu, fun k' => by cases k' <;> simp [Answered, hu]⟩
  | courses =>
    obtain ⟨c, hc, hf⟩ := Returns.of_bind h
    cases Returns.of_pure hf
    exact ⟨hc, fun k' => by cases k' <;> simp [Answered, hc]⟩
  | plans =>
    obtain ⟨p, hp, hf⟩ := Returns.of_bind h
    cases Returns.of_pure hf
    exact ⟨hp, fun k' => by cases k' <;> simp [Answered, hp]⟩
  | sessions =>
    cases Returns.of_pure h
    exact ⟨rfl, fun k' => by cases k' <;> simp [Answered]⟩
  | surveys =>
    cases Returns.of_pure h
    exact ⟨rfl, fun k' => by cases k' <;> simp [Answered]⟩
  | assets =>
    cases Returns.of_pure h
    exact ⟨⟨rfl, rfl⟩, fun k' => by cases k' <;> simp [Answered]⟩

theorem answered_of_foldlM {dir : Directory m} {d : Definition} {s : Session}
    {checkVisibility : Bool} {f : Filters} (ks : List FilterKind) (done : Filters)
    (h : CanReturn (ks.foldlM (Gather.filtersOf dir d s checkVisibility) done) f) :
    (∀ k ∈ ks, Answered dir d s checkVisibility f k) ∧
      ∀ k, Answered dir d s checkVisibility done k → Answered dir d s checkVisibility f k := by
  induction ks generalizing done with
  | nil =>
    cases Returns.of_pure h
    exact ⟨fun k hk => absurd hk List.not_mem_nil, fun k => id⟩
  | cons k ks ih =>
    obtain ⟨next, hnext, hrest⟩ := Returns.of_bind h
    obtain ⟨hnow, hbefore⟩ := answered_of_filtersOf hnext
    obtain ⟨hlater, hkeep⟩ := ih next hrest
    refine ⟨fun k' hk' => ?_, fun k' hk' => hkeep k' (hbefore k' hk')⟩
    rcases List.mem_cons.mp hk' with rfl | hk'
    · exact hkeep k' hnow
    · exact hlater k' hk'

theorem gathered_of_context {dir : Directory m} {w : Warehouse} {d : Definition} {s : Session}
    {checkVisibility : Bool} {ctx : Context}
    (h : CanReturn (Gather.context dir w d s checkVisibility) ctx) :
    Gathered dir w d s checkVisibility ctx := by
  obtain ⟨wordings, hwordings, h⟩ := Returns.of_bind h
  obtain ⟨custom, hcustom, h⟩ := Returns.of_bind h
  obtain ⟨filters, hfilters, h⟩ := Returns.of_bind h
  have hanswered := (answered_of_foldlM _ _ hfilters).1
  dsimp only at h
  split at h
  · obtain ⟨conditions, hconditions, h⟩ := Returns.of_bind h
    cases Returns.of_pure h
    exact ⟨rfl, rfl, hwordings, hcustom, hanswered, fun _ => hconditions⟩
  · next hno =>
    obtain ⟨conditions, hconditions, h⟩ := Returns.of_bind h
    cases Returns.of_pure h
    exact ⟨rfl, rfl, hwordings, hcustom, hanswered, fun hu => absurd hu hno⟩

/-- A report is compiled from a gathered context, for an engine of its type. -/
theorem gathered_of_compile {dir : Directory m} {w : Warehouse} {d : Definition} {s : Session}
    {engine : Sql.Dialect} {o : CompileOptions} {r : Compiled}
    (h : CanReturn (Report.compile dir w d s engine o) r) :
    engine ∈ d.type.engines ∧ ∃ ctx, CanReturn (Gather.context dir w d s o.checkVisibility) ctx ∧
      Gathered dir w d s o.checkVisibility ctx ∧ r = Report.compiled ctx engine o := by
  obtain ⟨u, hengine, h⟩ := Returns.of_bind h
  obtain ⟨ctx, hctx, h⟩ := Returns.of_bind h
  have hchecked : Report.checkEngine d.type engine = .ok u := Returns.of_lift hengine
  refine ⟨?_, ctx, hctx, gathered_of_context hctx, Returns.of_pure h⟩
  by_cases hin : engine ∈ d.type.engines
  · exact hin
  · rw [Report.checkEngine, if_neg hin] at hchecked
    cases hchecked

end LearningReports
