import LearningReports.Proofs.ColumnRequests
import LearningReports.Proofs.Resolution
import LearningReports.Proofs.ScopedQueries

/-! # Shared requests

A branch takes the first of several joins with one key, and a query the first of several named
queries with one name. All requests with one key on one side are the same, and so are all with one
name on either side, so nothing that is asked for is missing. -/
namespace LearningReports

open MonadAttach (CanReturn)
open Sql (Expr Fragment Branch)

/-! ## Short names of options -/

namespace CustomColumns

theorem aliasFor_injective {start start' : String} {f f' : ResolvedField}
    (h : aliasFor start f = aliasFor start' f') :
    start = start' ∧ f.field.number = f'.field.number := by
  have hlist (start : String) (f : ResolvedField) : (aliasFor start f).toList.reverse =
      (Nat.toDigits 10 f.field.number).reverse ++ '_' :: start.toList.reverse := by
    rw [aliasFor, String.toList_append, String.toList_append]
    change (_ ++ f.field.number.repr.toList).reverse = _
    rw [Nat.toList_repr, List.reverse_append, List.reverse_append]
    rfl
  have hdigits (start : String) (f : ResolvedField) :
      (aliasFor start f).toList.reverse.takeWhile Char.isDigit =
        (Nat.toDigits 10 f.field.number).reverse := by
    have hall : ∀ c ∈ (Nat.toDigits 10 f.field.number).reverse, c.isDigit = true := fun c hc =>
      Nat.isDigit_of_mem_toDigits (by decide) (by decide) (List.mem_reverse.mp hc)
    rw [hlist, List.takeWhile_append_of_pos hall]
    exact List.append_nil _
  have hsame : (Nat.toDigits 10 f.field.number).reverse =
      (Nat.toDigits 10 f'.field.number).reverse := by
    rw [← hdigits start, h, hdigits start']
  have hrest := hlist start f
  rw [h, hlist start' f', hsame, List.append_cancel_left_eq, List.cons_inj_right] at hrest
  refine ⟨String.toList_injective (List.reverse_injective hrest.symm), ?_⟩
  rw [← Nat.ofDigitChars_ten_toDigits (n := f.field.number), List.reverse_injective hsame,
    Nat.ofDigitChars_ten_toDigits]

end CustomColumns

/-! ## Requests with one tag -/

namespace Sql.Fragment

variable {shared : List Fragment} {p p' : Fragment}

theorem mem_of_agreed (h : p.agreed shared = some p) (htag : p.tag?.isSome = true) :
    p ∈ shared := by
  rw [agreed, if_pos htag] at h
  exact List.mem_of_find?_eq_some h

theorem eq_of_agreed (h : p.agreed shared = some p) (h' : p'.agreed shared = some p')
    (htag : p.tag?.isSome = true) (heq : p.tag? = p'.tag?) : p = p' := by
  have htag' : p'.tag?.isSome = true := heq ▸ htag
  rw [agreed, if_pos htag] at h
  rw [agreed, if_pos htag', ← heq, h] at h'
  exact Option.some.inj h'

theorem isScoped_of_areScoped {known : List String} (h : areScoped known shared = true)
    (hp : p ∈ shared) : ∃ known, p.isScoped known = true := by
  induction shared generalizing known with
  | nil => cases hp
  | cons f fs ih =>
    obtain ⟨hf, hfs⟩ := (Bool.and_eq_true _ _).mp h
    rcases List.mem_cons.mp hp with rfl | hp
    · exact ⟨known, hf⟩
    · exact ih hfs hp

end Sql.Fragment

theorem not_endsInDigit_requests (t : ReportType) (ctx : Context) (side : Side) :
    ∀ key ∈ (t.requests ctx side).filterMap Fragment.key?, endsInDigit key = false := by
  have hsample : ∀ t ∈ ReportType.all, ∀ side ∈ [Side.live, .archive],
      ∀ key ∈ (t.requests (.sample t true) side).filterMap Fragment.key?,
        endsInDigit key = false := by
    decide +kernel
  have hsides : side ∈ [Side.live, .archive] := by
    cases side <;> decide
  have hcompletion (ctx : Context) :
      (PlanStatistics.completionParts ctx).filterMap Fragment.key? = [] := by
    unfold PlanStatistics.completionParts
    split <;> rfl
  have hkeys : (t.requests ctx side).filterMap Fragment.key? =
      (t.requests (.sample t true) side).filterMap Fragment.key? := by
    cases t <;> cases side
    case planStatistics.live =>
      simp only [ReportType.requests, List.filterMap_append, hcompletion]
      rfl
    all_goals rfl
  rw [hkeys]
  exact hsample t t.mem_all side hsides

theorem agreed_live_of_archive {t : ReportType} {ctx : Context} {p : Fragment}
    {n : String × Sql.Body} (hn : p.defined? = some n)
    (h : p.agreed (t.requests ctx .archive) = some p) :
    p.agreed (t.requests ctx .live) = some p := by
  have hshared : ((t.requests ctx .archive).filter (·.defined?.isSome)).map
        (Fragment.agreed (t.requests ctx .live)) =
      ((t.requests ctx .archive).filter (·.defined?.isSome)).map some := by
    cases t <;> rfl
  have htag : p.tag?.isSome = true := by
    cases p with
    | define => rfl
    | _ => cases hn
  have hmem : p ∈ (t.requests ctx .archive).filter (·.defined?.isSome) :=
    List.mem_filter.mpr ⟨Fragment.mem_of_agreed h htag, by rw [hn]; rfl⟩
  exact List.map_inj_left.mp hshared p hmem

/-! ## Requests of a base -/

section Base

variable {shared fs gs : List Fragment}

theorem agreed_of_map (h : fs.map (Fragment.agreed shared) = fs.map some) :
    ∀ p ∈ fs, p.agreed shared = some p :=
  List.map_inj_left.mp h

theorem agreed_restrictAll (es : List Expr) : ∀ p ∈ restrictAll es, p.agreed shared = some p := by
  intro p hp
  obtain ⟨e, -, rfl⟩ := List.mem_map.mp hp
  rfl

theorem agreed_append (hfs : ∀ p ∈ fs, p.agreed shared = some p)
    (hgs : ∀ p ∈ gs, p.agreed shared = some p) : ∀ p ∈ fs ++ gs, p.agreed shared = some p :=
  List.forall_mem_append.mpr ⟨hfs, hgs⟩

theorem agreed_when {condition : Bool} (h : ∀ p ∈ fs, p.agreed shared = some p) :
    ∀ p ∈ when condition fs, p.agreed shared = some p := fun p hp => h p (mem_when.mp hp).2

end Base

theorem agreed_base (t : ReportType) (ctx : Context) (side : Side) :
    ∀ p ∈ (t.base ctx).side side, p.agreed (t.requests ctx side) = some p := by
  cases t <;> cases side
  case usersCourses.live =>
    exact agreed_append (agreed_of_map rfl) (agreed_restrictAll _)
  case usersCourses.archive =>
    exact List.forall_mem_cons.mpr ⟨rfl, agreed_restrictAll _⟩
  case classroomSessions.live =>
    exact agreed_append (agreed_append (agreed_append (agreed_of_map rfl)
      (agreed_when (agreed_of_map rfl))) (agreed_restrictAll _)) (agreed_of_map rfl)
  case classroomSessions.archive =>
    exact agreed_append (agreed_of_map rfl) (agreed_restrictAll _)
  case assetStatistics.live =>
    exact agreed_append (agreed_append (agreed_of_map rfl) (agreed_restrictAll _))
      (agreed_of_map rfl)
  case planStatistics.live =>
    have hcompletion : ∀ p ∈ PlanStatistics.completionParts ctx,
        p.agreed (ReportType.requests .planStatistics ctx .live) = some p := by
      unfold ReportType.requests PlanStatistics.completionParts
      split <;> exact agreed_of_map rfl
    exact agreed_append (agreed_append (agreed_of_map rfl) hcompletion) (agreed_of_map rfl)
  case enrollmentTime.live =>
    exact agreed_append (agreed_of_map rfl) (agreed_restrictAll _)
  all_goals exact agreed_of_map rfl

/-! ## Requests of a report -/

theorem tag?_ne_of_optionJoin? {t : ReportType} {ctx : Context} {side : Side} {p p' : Fragment}
    {r : ResolvedField} (h : p.agreed (t.requests ctx side) = some p)
    (h' : CustomColumns.optionJoin? ctx r = some p') : p.tag? ≠ p'.tag? := by
  obtain ⟨start, -, ss, rfl⟩ := CustomColumns.join_of_optionJoin? h'
  intro heq
  have hkey : p.key? = some (CustomColumns.aliasFor start r) := by
    cases p <;> cases heq
    rfl
  have hmem : p ∈ t.requests ctx side := Fragment.mem_of_agreed h (by rw [heq]; rfl)
  have hends := not_endsInDigit_requests t ctx side _ (List.mem_filterMap.mpr ⟨p, hmem, hkey⟩)
  rw [endsInDigit_aliasFor] at hends
  cases hends

/-- Each resolved custom field stands under its own key. -/
def Context.HasOwnKeys (ctx : Context) : Prop :=
  ∀ key r, lookup? key ctx.customFields = some r → key = r.field.key

namespace Layout

/-- All that is asked for on a side, first by the base and then by the columns. -/
def requests (ctx : Context) (side : Side) : List Fragment :=
  (ctx.type.base ctx).side side ++ (columns ctx).flatMap (·.2.parts side)

theorem branch_of_requests (ctx : Context) (side : Side) :
    branch ctx side = .ofFragments (requests ctx side ++ selection ctx (·.on side)) :=
  branch_eq ctx side

variable {ctx : Context} {side side' : Side} {p p' : Fragment}

/-- A request is shared by all columns of the type, or it is for the options of a custom field. -/
theorem agreed_or_option (h : p ∈ requests ctx side) :
    p.agreed (ctx.type.requests ctx side) = some p ∨
      ∃ key r, lookup? key ctx.customFields = some r ∧
        CustomColumns.optionJoin? ctx r = some p := by
  rcases List.mem_append.mp h with hbase | hparts
  · exact .inl (agreed_base ctx.type ctx side p hbase)
  · obtain ⟨⟨key, c⟩, hkc, hp⟩ := List.mem_flatMap.mp hparts
    obtain ⟨own, hasks, hown⟩ := asks_of_mem_columns hkc
    refine (hasks side p hp).imp_right fun h => ?_
    obtain ⟨r, hr, hjoin⟩ := hown p h
    exact ⟨key, r, hr, hjoin⟩

theorem eq_of_options (hkeys : ctx.HasOwnKeys)
    {key key' : String} {r r' : ResolvedField} (hr : lookup? key ctx.customFields = some r)
    (hr' : lookup? key' ctx.customFields = some r')
    (h : CustomColumns.optionJoin? ctx r = some p)
    (h' : CustomColumns.optionJoin? ctx r' = some p') (heq : p.tag? = p'.tag?) : p = p' := by
  obtain ⟨start, hstart, ss, hp⟩ := CustomColumns.join_of_optionJoin? h
  obtain ⟨start', hstart', ss', hp'⟩ := CustomColumns.join_of_optionJoin? h'
  have halias : CustomColumns.aliasFor start r = CustomColumns.aliasFor start' r' := by
    rw [hp, hp'] at heq
    simpa [Fragment.tag?] using heq
  obtain ⟨rfl, hnumber⟩ := CustomColumns.aliasFor_injective halias
  have hentity : r.field.entity = r'.field.entity := CustomColumns.entity_eq_of_mem_optionStarts
    _ (Entity.mem_all _) _ (Entity.mem_all _) start hstart hstart'
  have hfield : r.field = r'.field := CustomField.eq_of_parts hentity hnumber
  have hsame : key = key' := by
    rw [hkeys key r hr, hkeys key' r' hr', hfield]
  subst hsame
  cases Option.some.inj (hr.symm.trans hr')
  exact Option.some.inj (h.symm.trans h')

/-- Two requests on one side with the same tag are the same. -/
theorem eq_of_tag?_eq (hkeys : ctx.HasOwnKeys)
    (h : p ∈ requests ctx side) (h' : p' ∈ requests ctx side) (htag : p.tag?.isSome = true)
    (heq : p.tag? = p'.tag?) : p = p' := by
  rcases agreed_or_option h with hshared | ⟨key, r, hr, hown⟩ <;>
    rcases agreed_or_option h' with hshared' | ⟨key', r', hr', hown'⟩
  · exact Fragment.eq_of_agreed hshared hshared' htag heq
  · exact absurd heq (tag?_ne_of_optionJoin? hshared hown')
  · exact absurd heq.symm (tag?_ne_of_optionJoin? hshared' hown)
  · exact eq_of_options hkeys hr hr' hown hown' heq

/-! ## Joins -/

theorem source_of_join {key : String} {ss : List Sql.Source}
    (hside : ctx.type.hasSide side = true) (h : .join key ss ∈ requests ctx side) :
    ∃ s, ss = [s] ∧ s.handle? = some key := by
  have hscoped : ∃ known, Fragment.isScoped known (.join key ss) = true := by
    rcases List.mem_append.mp h with hbase | hparts
    · exact Fragment.isScoped_of_areScoped (opens_base ctx hside).inScope hbase
    · exact Fragment.isScoped_of_areScoped (areScoped_parts hside) hparts
  obtain ⟨known, hscoped⟩ := hscoped
  match ss with
  | [s] => exact ⟨s, rfl, beq_iff_eq.mp ((Bool.and_eq_true _ _).mp hscoped).1⟩

theorem eq_select_of_mem_selection {expr : Column → Expr} (h : p ∈ selection ctx expr) :
    ∃ e a, p = .select e a := by
  unfold selection at h
  split at h
  · cases List.mem_singleton.mp h
    exact ⟨_, _, rfl⟩
  · obtain ⟨kc, -, rfl⟩ := List.mem_map.mp h
    exact ⟨_, _, rfl⟩

/-- A branch has the sources that are asked for, and no others. -/
theorem mem_sources_branch (hkeys : ctx.HasOwnKeys) {s : Sql.Source} :
    s ∈ (branch ctx side).sources ↔ ∃ p ∈ requests ctx side, s ∈ p.sources := by
  rw [branch_of_requests]
  constructor
  · intro hs
    rcases Branch.mem_sources_addAll hs with hempty | ⟨p, hp, hsp⟩
    · exact absurd hempty List.not_mem_nil
    · refine ⟨p, (List.mem_append.mp hp).resolve_right fun hselect => ?_, hsp⟩
      obtain ⟨e, a, rfl⟩ := eq_select_of_mem_selection hselect
      cases hsp
  · rintro ⟨p, hp, hsp⟩
    have hmem : p ∈ requests ctx side ++ selection ctx (·.on side) := List.mem_append_left _ hp
    cases p with
    | source s' =>
      cases List.mem_singleton.mp hsp
      exact Branch.mem_sources_ofFragments hmem
    | join key ss =>
      -- the first join with the key is in effect, and it is this one
      obtain ⟨ss', hfirst, hsub⟩ := Branch.join_in_effect (b := .empty) hmem rfl
      have hrequest : .join key ss' ∈ requests ctx side := by
        refine (List.mem_append.mp hfirst).resolve_right fun hselect => ?_
        cases (mem_selection hselect).2
      cases eq_of_tag?_eq hkeys hp hrequest rfl rfl
      exact hsub hsp
    | select => cases hsp
    | groupBy => cases hsp
    | restrict => cases hsp
    | define => cases hsp

theorem filter_sources (hkeys : ctx.HasOwnKeys) (hside : ctx.type.hasSide side = true)
    {key : String} {ss : List Sql.Source} (h : .join key ss ∈ requests ctx side) :
    (branch ctx side).sources.filter (·.handle? == some key) = ss := by
  obtain ⟨s, rfl, hhandle⟩ := source_of_join hside h
  have hmem : s ∈ (branch ctx side).sources :=
    (mem_sources_branch hkeys).mpr ⟨_, h, List.mem_singleton.mpr rfl⟩
  exact filter_eq_singleton (wellScoped_branch hside).distinct hmem hhandle

/-! ## Named queries -/

theorem agreed_of_define {name : String} {body : Sql.Body}
    (h : .define name body ∈ requests ctx side) :
    Fragment.agreed (ctx.type.requests ctx .live) (.define name body) =
      some (.define name body) := by
  rcases agreed_or_option h with hshared | ⟨-, r, -, hown⟩
  · cases side with
    | live => exact hshared
    | archive => exact agreed_live_of_archive rfl hshared
  · obtain ⟨_, _, _, hjoin⟩ := CustomColumns.join_of_optionJoin? hown
    cases hjoin

theorem eq_of_define {name : String} {body body' : Sql.Body}
    (h : .define name body ∈ requests ctx side) (h' : .define name body' ∈ requests ctx side') :
    body = body' := by
  cases Fragment.eq_of_agreed (agreed_of_define h) (agreed_of_define h') rfl rfl
  rfl

/-- A branch defines what is asked for, and nothing else. -/
theorem mem_definitions_branch {n : String × Sql.Body} :
    n ∈ (branch ctx side).definitions ↔ .define n.1 n.2 ∈ requests ctx side := by
  rw [branch_of_requests]
  have hrequest {n : String × Sql.Body}
      (h : n ∈ (Branch.ofFragments
        (requests ctx side ++ selection ctx (·.on side))).definitions) :
      .define n.1 n.2 ∈ requests ctx side := by
    unfold Branch.ofFragments at h
    rw [Branch.addAll_definitions] at h
    obtain ⟨p, hp, hn⟩ := List.mem_filterMap.mp
      ((Query.mem_or_mem_of_mem_merge h).resolve_left List.not_mem_nil)
    cases p with
    | define name body =>
      cases hn
      refine (List.mem_append.mp hp).resolve_right fun hselect => ?_
      obtain ⟨e, a, heq⟩ := eq_select_of_mem_selection hselect
      cases heq
    | _ => cases hn
  refine ⟨hrequest, fun h => ?_⟩
  have hname : n.1 ∈ (Branch.ofFragments
      (requests ctx side ++ selection ctx (·.on side))).definitions.map Prod.fst :=
    Branch.mem_names_ofFragments.mpr (List.any_eq_true.mpr
      ⟨_, List.mem_append_left _ h, by simp [Fragment.defines, Fragment.defined?]⟩)
  obtain ⟨n', hn', hsame⟩ := List.mem_map.mp hname
  obtain ⟨name, body⟩ := n
  obtain ⟨name', body'⟩ := n'
  cases hsame
  have hn'' := hrequest hn'
  cases eq_of_define h hn''
  exact hn'

end Layout

theorem Query.filter_definitionsOf {ctx : Context} {side : Side} (hside : emits ctx side = true)
    {name : String} {body : Sql.Body} (h : .define name body ∈ Layout.requests ctx side) :
    (definitionsOf ctx).filter (·.1 == name) = [(name, body)] := by
  have hbranch : (name, body) ∈ (Layout.branch ctx side).definitions :=
    Layout.mem_definitions_branch.mpr h
  have hname : name ∈ (definitionsOf ctx).map Prod.fst := mem_names_definitionsOf.mpr
    ⟨_, mem_branchesOf.mpr ⟨side, hside, rfl⟩, List.mem_map_of_mem hbranch⟩
  obtain ⟨⟨name', body'⟩, hmem, hsame⟩ := List.mem_map.mp hname
  cases hsame
  obtain ⟨b, hb, hn⟩ := exists_of_mem_definitionsOf hmem
  obtain ⟨side', -, rfl⟩ := mem_branchesOf.mp hb
  cases Layout.eq_of_define h (Layout.mem_definitions_branch.mp hn)
  have hdistinct : ((definitionsOf ctx).filterMap fun n => some n.1).Nodup := by
    simpa using nodup_names_definitionsOf ctx
  have hfilter := filter_eq_singleton hdistinct hmem rfl
  simpa using hfilter

/-! ## The theorem -/

/-- Nothing that is asked for is missing. On one side, all joins with one key are the same, and the
branch has it once. On both sides, all named queries with one name are the same, and the query has
it once. -/
structure KeepsRequests (ctx : Context) : Prop where
  asked : ∀ side, Layout.branch ctx side =
    .ofFragments (Layout.requests ctx side ++ Layout.selection ctx (·.on side))
  joins : ∀ side key ss ss', .join key ss ∈ Layout.requests ctx side →
    .join key ss' ∈ Layout.requests ctx side → ss = ss'
  joined : ∀ side key ss, ctx.type.hasSide side = true → .join key ss ∈ Layout.requests ctx side →
    ∃ s, ss = [s] ∧ (Layout.branch ctx side).sources.filter (·.handle? == some key) = [s]
  definitions : ∀ side side' name body body', .define name body ∈ Layout.requests ctx side →
    .define name body' ∈ Layout.requests ctx side' → body = body'
  defined : ∀ side name body, Query.emits ctx side = true →
    .define name body ∈ Layout.requests ctx side →
      (Query.definitionsOf ctx).filter (·.1 == name) = [(name, body)]

theorem keepsRequests_of_ownKeys {ctx : Context} (hkeys : ctx.HasOwnKeys) : KeepsRequests ctx where
  asked := Layout.branch_of_requests ctx
  joins side key ss ss' h h' := by
    cases Layout.eq_of_tag?_eq hkeys h h' rfl rfl
    rfl
  joined side key ss hside h := by
    obtain ⟨s, hs, -⟩ := Layout.source_of_join hside h
    exact ⟨s, hs, hs ▸ Layout.filter_sources hkeys hside h⟩
  definitions side side' name body body' h h' := Layout.eq_of_define h h'
  defined side name body hside h := Query.filter_definitionsOf hside h

section Service

variable {m : Type → Type} [Monad m] [MonadExceptOf Failure m] [MonadAttach m] [LawfulService m]

theorem Gathered.hasOwnKeys {dir : Directory m} {w : Warehouse} {d : Definition} {s : Session}
    {checkVisibility : Bool} {ctx : Context} (h : Gathered dir w d s checkVisibility ctx) :
    ctx.HasOwnKeys := fun _ _ =>
  CustomFields.key_of_resolve h.custom d.type.nodup_entities

/-- Every compiled report keeps all joins and named queries that its base and its columns ask
for. -/
theorem compile_keeps_requests {dir : Directory m} {w : Warehouse} {d : Definition} {s : Session}
    {engine : Sql.Dialect} {o : CompileOptions} {r : Compiled}
    (h : CanReturn (Report.compile dir w d s engine o) r) :
    ∃ ctx, Gathered dir w d s o.checkVisibility ctx ∧
      r.sql = engine.renderQuery (Query.ofContext ctx o.limit o.use) ∧ KeepsRequests ctx := by
  obtain ⟨-, ctx, -, hctx, rfl⟩ := gathered_of_compile h
  exact ⟨ctx, hctx, rfl, keepsRequests_of_ownKeys hctx.hasOwnKeys⟩

end Service

theorem compile_keeps_requests_skills :
    ∃ r, Report.compile (Records.directory { session := archivist }) .complete onSkills archivist
        .athena {} = .ok r ∧
      ∃ ctx, Gathered (m := Outcome) (Records.directory { session := archivist }) .complete onSkills
          archivist true ctx ∧
        r.sql = Sql.Dialect.athena.renderQuery (Query.ofContext ctx 0 {}) ∧ KeepsRequests ctx := by
  obtain ⟨r, hr⟩ : ∃ r, Report.compile (Records.directory { session := archivist }) .complete
      onSkills archivist .athena {} = .ok r := ⟨_, rfl⟩
  have hreturn : CanReturn (Report.compile (m := Outcome)
      (Records.directory { session := archivist }) .complete onSkills archivist .athena {}) r := hr
  exact ⟨r, hr, compile_keeps_requests hreturn⟩

end LearningReports
