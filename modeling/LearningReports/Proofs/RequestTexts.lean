import LearningReports.Directory.Records
import LearningReports.Proofs.BaseOutlines
import LearningReports.Proofs.Gathered
import LearningReports.Proofs.Lockstep
import LearningReports.Proofs.NamedQueries
import LearningReports.Proofs.Resolution
import LearningReports.Proofs.ResultColumns

/-! # Texts of a request

A report is compiled from its definition and from what the directory says. The time zone and the
bounds of dates do not decide what is asked for, and as long as their quotes stand in pairs they
change nothing in the query but what stands between quotes. -/
namespace LearningReports

open MonadAttach (CanReturn)
open Sql (Expr Fragment)
open Text (isPaired isPlain SameStructure OneStatement)

/-! ## Branches -/

namespace Layout

theorem parts_outlined (ctx : Context) (side : Side) :
    (columns ctx.outlined).flatMap (·.2.parts side) = (columns ctx).flatMap (·.2.parts side) := by
  have hparts (c : Context) : (columns c).flatMap (·.2.parts side) =
      ((columns c).map outlineColumn).flatMap (·.2.parts side) := by
    rw [List.flatMap_map]
    cases side with
    | _ => rfl
  rw [hparts ctx.outlined, ← outline_columns, ← hparts]

theorem outline_selection (ctx : Context) (side : Side) :
    SameFragments (selection ctx (·.on side)) (selection ctx.outlined (·.on side)) := by
  have hselection (c : Context) : (selection c (·.on side)).map Fragment.outline =
      if (columns c).map outlineColumn = [] then [placeholder]
      else ((columns c).map outlineColumn).map fun kc =>
        .select (kc.2.on side) (aliasOf c kc.1) := by
    unfold selection
    cases columns c with
    | nil => rfl
    | cons kc cs =>
      rw [if_neg (by simp), List.map_map, List.map_map]
      cases side with
      | _ => rfl
  unfold SameFragments
  rw [hselection, hselection, outline_columns]
  rfl

theorem outline_branch (ctx : Context) (side : Side) :
    (branch ctx side).outline = (branch ctx.outlined side).outline := by
  have hparts : SameFragments ((columns ctx).flatMap (·.2.parts side))
      ((columns ctx.outlined).flatMap (·.2.parts side)) := by
    rw [parts_outlined]
    exact .refl _
  have hfragments := ((LearningReports.outline_base ctx ctx.type side).append hparts).append
    (outline_selection ctx side)
  rw [branch_eq, branch_eq, Sql.Branch.outline_ofFragments, Sql.Branch.outline_ofFragments]
  exact congrArg Sql.Branch.ofFragments hfragments

theorem allFragments_selection {ctx : Context} (side : Side)
    (hcolumns : ∀ kc ∈ columns ctx, kc.2.isClosed isPaired = true) :
    AllFragments (selection ctx (·.on side)) := by
  unfold selection
  split
  · exact .cons rfl .nil
  · intro f hf
    obtain ⟨kc, hkc, rfl⟩ := List.mem_map.mp hf
    have hclosed := hcolumns kc hkc
    simp only [Column.isClosed, Bool.and_eq_true] at hclosed
    refine (Bool.and_eq_true _ _).mpr ⟨?_, rfl⟩
    cases side with
    | live => exact hclosed.1.1.1
    | archive => exact hclosed.1.1.2

theorem allFragments_parts {ctx : Context} (side : Side)
    (hcolumns : ∀ kc ∈ columns ctx, kc.2.isClosed isPaired = true) :
    AllFragments ((columns ctx).flatMap (·.2.parts side)) := by
  intro f hf
  obtain ⟨kc, hkc, hpart⟩ := List.mem_flatMap.mp hf
  have hclosed := hcolumns kc hkc
  simp only [Column.isClosed, Bool.and_eq_true, List.all_eq_true] at hclosed
  cases side with
  | live => exact hclosed.1.2 f hpart
  | archive => exact hclosed.2 f hpart

theorem closed_branch {ctx : Context} (hdates : ctx.definition.HarmlessDates)
    (hcolumns : ∀ kc ∈ columns ctx, kc.2.isClosed isPaired = true) (side : Side) :
    (branch ctx side).Closed isPaired := by
  have hfragments : AllFragments ((ctx.type.base ctx).side side
      ++ (columns ctx).flatMap (·.2.parts side) ++ selection ctx (·.on side)) :=
    ((LearningReports.allFragments_base hdates ctx.type side).append
      (allFragments_parts side hcolumns)).append (allFragments_selection side hcolumns)
  rw [branch_eq]
  exact Sql.Branch.closed_ofFragments (List.all_eq_true.mpr hfragments)

end Layout

/-! ## Queries -/

namespace Query

theorem choice_outlined (ctx : Context) : choice ctx.outlined = choice ctx := by
  have hany (o : Option DateOption) :
      BranchChoice.isAny (o.map DateOption.outline) = BranchChoice.isAny o := by
    cases o with
    | _ => rfl
  have hfits : BranchChoice.onlyArchiveFits ctx.definition.outline =
      BranchChoice.onlyArchiveFits ctx.definition := by
    simp only [BranchChoice.onlyArchiveFits, Definition.outline, hany]
  unfold choice
  change (if ctx.hasArchive then _ else _) = _
  simp only [BranchChoice.ofDefinition, Context.outlined, hfits]
  rfl

theorem outline_branchesOf (ctx : Context) :
    (branchesOf ctx).map Sql.Branch.outline =
      (branchesOf ctx.outlined).map Sql.Branch.outline := by
  have hwhen (condition : Bool) (side : Side) :
      (when condition [Layout.branch ctx side]).map Sql.Branch.outline =
        (when condition [Layout.branch ctx.outlined side]).map Sql.Branch.outline := by
    cases condition with
    | true => exact congrArg (fun b => [b]) (Layout.outline_branch ctx side)
    | false => rfl
  rw [branchesOf, branchesOf, choice_outlined, List.map_append, List.map_append]
  exact congrArg₂ _ (hwhen _ .live) (hwhen _ .archive)

def outlineNamed (n : String × Sql.Body) : String × Sql.Body := (n.1, n.2.outline)

theorem outline_merge (done more : List (String × Sql.Body)) :
    (merge done more).map outlineNamed = merge (done.map outlineNamed) (more.map outlineNamed) := by
  induction more generalizing done with
  | nil => rfl
  | cons n more ih =>
    have hlookup : (lookup? n.1 (done.map outlineNamed)).isSome = (lookup? n.1 done).isSome := by
      unfold outlineNamed
      rw [Sql.lookup?_map, Option.isSome_map]
    change (merge (if (lookup? n.1 done).isSome then done else done ++ [n]) more).map _ =
      merge (if (lookup? n.1 (done.map outlineNamed)).isSome then _ else _) (more.map outlineNamed)
    rw [ih, hlookup]
    split
    · rfl
    · rw [List.map_append]
      rfl

theorem outline_definitionsOf (ctx : Context) :
    (definitionsOf ctx).map outlineNamed =
      ((branchesOf ctx).map Sql.Branch.outline).foldl
        (fun done b => merge done b.definitions) [] := by
  have hfold (bs : List Sql.Branch) (done : List (String × Sql.Body)) :
      (bs.foldl (fun done b => merge done b.definitions) done).map outlineNamed =
        (bs.map Sql.Branch.outline).foldl (fun done b => merge done b.definitions)
          (done.map outlineNamed) := by
    induction bs generalizing done with
    | nil => rfl
    | cons b bs ih =>
      rw [List.foldl_cons, ih, outline_merge]
      rfl
  exact hfold _ []

theorem sortKey_outlined (ctx : Context) : sortKey ctx.outlined = sortKey ctx := by
  have hcolumn (key : String) : hasColumn ctx.outlined key = hasColumn ctx key := by
    have hkeys (c : Context) :
        hasColumn c key = ((Layout.columns c).map Prod.fst).any (· == key) := by
      rw [List.any_map]
      rfl
    rw [hkeys, hkeys, Layout.keys_outlined]
  unfold sortKey
  simp only [hcolumn]
  rfl

theorem outline_ofContext (ctx : Context) (limit : Int) (use : ExportUse) :
    (ofContext ctx limit use).outline = (ofContext ctx.outlined limit use).outline := by
  have hdefinitions : (definitionsOf ctx).map outlineNamed =
      (definitionsOf ctx.outlined).map outlineNamed := by
    rw [outline_definitionsOf, outline_definitionsOf, outline_branchesOf]
  have horder : (ofContext ctx limit use).order = (ofContext ctx.outlined limit use).order := by
    simp only [ofContext, sortKey_outlined]
    rfl
  change (⟨(definitionsOf ctx).map outlineNamed, (branchesOf ctx).map Sql.Branch.outline, _, _⟩ :
    Query) = ⟨(definitionsOf ctx.outlined).map outlineNamed,
      (branchesOf ctx.outlined).map Sql.Branch.outline, _, _⟩
  rw [hdefinitions, outline_branchesOf, horder]
  rfl

theorem closed_ofContext {ctx : Context} (hdates : ctx.definition.HarmlessDates)
    (hcolumns : ∀ kc ∈ Layout.columns ctx, kc.2.isClosed isPaired = true) (limit : Int)
    (use : ExportUse) : (ofContext ctx limit use).Closed isPaired := by
  have hbranches : ∀ b ∈ branchesOf ctx, b.Closed isPaired := by
    intro b hb
    obtain ⟨side, -, rfl⟩ := mem_branchesOf.mp hb
    exact Layout.closed_branch hdates hcolumns side
  have hsort : (sortKey ctx).isFixed = true := by
    unfold sortKey
    dsimp only
    split
    · rfl
    · split
      · rfl
      · rfl
  refine ⟨fun n hn => ?_, hbranches, fun e he => ?_⟩
  · obtain ⟨b, hb, hnb⟩ := exists_of_mem_definitionsOf hn
    exact (hbranches b hb).definitions n hnb
  · change e ∈ (if use.isPreview then none else some (sortKey ctx, _)) at he
    split at he
    · cases he
    · cases he
      exact hsort

end Query

/-! ## Two requests -/

/-- The texts of the definition that a report puts between quotes as they are have their single
quotes in pairs, and so have those of the caller. -/
structure Definition.Harmless (d : Definition) (s : Session) : Prop where
  /-- The time zone of the caller counts when the definition has none. -/
  zone : d.ShowsTime → isPaired (Context.timezone { definition := d, session := s }) = true
  dates : d.HarmlessDates
  codes : d.Selects .enrollment → s.PairedCodes

theorem Query.closed_of_harmless {ctx : Context} (h : ctx.definition.Harmless ctx.session)
    (hkeys : ∀ key r, lookup? key ctx.customFields = some r → key = r.field.key) (limit : Int)
    (use : ExportUse) : (ofContext ctx limit use).Closed isPaired :=
  closed_ofContext h.dates
    (fun _ hkc => Layout.isClosed_of_mem_columns hkc h.zone hkeys h.codes) limit use

section Service

variable {m : Type → Type} [Monad m] [MonadExceptOf Failure m]

/-- What is asked for does not depend on the texts that outlines leave out. -/
theorem Gather.context_eq [LawfulMonad m] (dir : Directory m) (w : Warehouse) (d : Definition)
    (s : Session) (checkVisibility : Bool) :
    context dir w d s checkVisibility =
      (fun ctx => { ctx with definition := d }) <$> context dir w d.outline s checkVisibility :=
  context_of_asksSame w d.outline d s s rfl rfl rfl rfl rfl (by rintro ctx - rfl; rfl)

variable [MonadAttach m] [LawfulService m]

theorem sameStructure_compiled {dir : Directory m} {w : Warehouse} {d d' : Definition}
    {s : Session} {engine : Sql.Dialect} {o : CompileOptions} {ctx : Context}
    (h : d.outline = d'.outline) (hd : d.Harmless s) (hd' : d'.Harmless s)
    (hctx : CanReturn (Gather.context dir w d.outline s o.checkVisibility) ctx) :
    SameStructure (Report.compiled { ctx with definition := d } engine o).sql
        (Report.compiled { ctx with definition := d' } engine o).sql ∧
      OneStatement (Report.compiled { ctx with definition := d } engine o).sql ∧
      OneStatement (Report.compiled { ctx with definition := d' } engine o).sql := by
  obtain ⟨-, hsession, -, hcustom, -, -⟩ := gathered_of_context hctx
  have hkeys : ∀ key r, lookup? key ctx.customFields = some r → key = r.field.key :=
    fun key r => CustomFields.key_of_resolve hcustom d.type.nodup_entities
  have hclosed {d : Definition} (hd : d.Harmless s) :
      (Query.ofContext { ctx with definition := d } o.limit o.use).Closed isPaired := by
    rw [← hsession] at hd
    have hharmless : Definition.Harmless (Context.definition { ctx with definition := d })
        (Context.session { ctx with definition := d }) := hd
    exact Query.closed_of_harmless hharmless hkeys _ _
  refine engine.sameStructure_of_outline (hclosed hd) (hclosed hd') ?_
  have houtlined : Context.outlined { ctx with definition := d } =
      Context.outlined { ctx with definition := d' } := by
    simp only [Context.outlined, h]
  rw [Query.outline_ofContext, houtlined, ← Query.outline_ofContext]

/-- A report of a harmless definition is one statement. -/
theorem oneStatement_of_compile {dir : Directory m} {w : Warehouse} {d : Definition} {s : Session}
    {engine : Sql.Dialect} {o : CompileOptions} {r : Compiled} (hd : d.Harmless s)
    (h : CanReturn (Report.compile dir w d s engine o) r) : OneStatement r.sql := by
  rw [Report.compile, Gather.context_eq] at h
  simp only [bind_map_left] at h
  obtain ⟨-, -, h⟩ := Returns.of_bind h
  obtain ⟨ctx, hctx, h⟩ := Returns.of_bind h
  cases Returns.of_pure h
  exact (sameStructure_compiled rfl hd hd hctx).2.1

/-- Two definitions that differ only in the texts of the time zone and of the bounds of dates are
compiled by asking for the same. As long as the texts have their single quotes in pairs, the queries
are single statements with the same tokens, but for what stands between quotes. -/
theorem compile_keeps_structure {dir : Directory m} {w : Warehouse} {d d' : Definition}
    {s : Session} (engine : Sql.Dialect) (o : CompileOptions) (h : d.outline = d'.outline)
    (hd : d.Harmless s) (hd' : d'.Harmless s) :
    Together (Report.compile dir w d s engine o) (Report.compile dir w d' s engine o) fun r r' =>
      SameStructure r.sql r'.sql ∧ OneStatement r.sql ∧ OneStatement r'.sql := by
  let both : m (Compiled × Compiled) := do
    (Report.checkEngine d.type engine).lift
    let ctx ← Gather.context dir w d.outline s o.checkVisibility
    return (Report.compiled { ctx with definition := d } engine o,
      Report.compiled { ctx with definition := d' } engine o)
  refine ⟨both, ?_, ?_, fun p hp => ?_⟩
  · rw [Report.compile, Gather.context_eq]
    simp only [both, map_bind, map_pure, bind_map_left]
  · have htype : d'.type = d.type := (congrArg Definition.type h).symm
    rw [Report.compile, Gather.context_eq, htype, ← h]
    simp only [both, map_bind, map_pure, bind_map_left]
  · obtain ⟨-, -, hp⟩ := Returns.of_bind hp
    obtain ⟨ctx, hctx, hp⟩ := Returns.of_bind hp
    cases Returns.of_pure hp
    exact sameStructure_compiled h hd hd' hctx

end Service

/-! ## Registrations -/

def reader : Session := { idUser := 1 }

def registrations (zone first : String) : Definition :=
  { idReport := "", type := .usersCourses, fields := ["user_register_date"], timezone := zone
    enrollmentDate := some
      { isAny := false, type := "range", operator := "range", first := .str first } }

theorem harmless_registrations {zone first : String} (hset : zone.isEmpty = false)
    (hzone : isPaired zone = true) (hfirst : isPaired (DateFilter.dayOf (.str first)) = true) :
    (registrations zone first).Harmless reader := by
  have hdate : DateFilter.isHarmless (registrations zone first).enrollmentDate = true := by
    simp only [registrations, DateFilter.isHarmless, hfirst]
    rfl
  have hdates : (registrations zone first).HarmlessDates :=
    ⟨hdate, rfl, rfl, rfl, rfl, rfl, fun s hs => by cases hs⟩
  refine ⟨fun _ => ?_, hdates, fun _ => ⟨by decide, by decide⟩⟩
  change isPaired (if zone.isEmpty then _ else zone) = true
  rw [hset]
  exact hzone

theorem compile_keeps_structure_registrations :
    (registrations "UTC" "2024-01-01").outline = (registrations "O''Higgins" "x").outline ∧
      (registrations "UTC" "2024-01-01").Harmless reader ∧
      (registrations "O''Higgins" "x").Harmless reader ∧
      ∃ r r', Report.compile (Records.directory { session := reader }) .complete
          (registrations "UTC" "2024-01-01") reader .athena {} = .ok r ∧
        Report.compile (Records.directory { session := reader }) .complete
          (registrations "O''Higgins" "x") reader .athena {} = .ok r' ∧
        SameStructure r.sql r'.sql ∧ OneStatement r.sql ∧ OneStatement r'.sql := by
  have hd : (registrations "UTC" "2024-01-01").Harmless reader :=
    harmless_registrations (by decide) (by decide) (by decide)
  have hd' : (registrations "O''Higgins" "x").Harmless reader :=
    harmless_registrations (by decide) (by decide) (by decide)
  have htogether : Together (Report.compile (m := Outcome)
      (Records.directory { session := reader }) .complete (registrations "UTC" "2024-01-01")
        reader .athena {})
      (Report.compile (Records.directory { session := reader }) .complete
        (registrations "O''Higgins" "x") reader .athena {}) _ :=
    compile_keeps_structure .athena {} rfl hd hd'
  exact ⟨rfl, hd, hd', _, _, rfl, rfl, htogether.of_ok rfl rfl⟩

/-- A single quote in the time zone ends its literal, and what follows is read as a part of the
query. -/
theorem compile_breaks_structure :
    (registrations "UTC" "").outline = (registrations "'; DROP TABLE t" "").outline ∧
      ∃ r r', Report.compile (Records.directory { session := reader }) .complete
          (registrations "UTC" "") reader .athena {} = .ok r ∧
        Report.compile (Records.directory { session := reader }) .complete
          (registrations "'; DROP TABLE t" "") reader .athena {} = .ok r' ∧
        ¬SameStructure r.sql r'.sql ∧ ¬OneStatement r'.sql := by
  obtain ⟨r, hr⟩ : ∃ r, Report.compile (Records.directory { session := reader }) .complete
      (registrations "UTC" "") reader .athena {} = .ok r := ⟨_, rfl⟩
  have hone : OneStatement r.sql :=
    oneStatement_of_compile (m := Outcome)
      (harmless_registrations (by decide) (by decide) (by decide)) hr
  obtain ⟨r', hr', hsql⟩ : ∃ r', Report.compile (Records.directory { session := reader }) .complete
      (registrations "'; DROP TABLE t" "") reader .athena {} = .ok r' ∧
      r'.sql = "SELECT DATE_FORMAT(cu.register_date AT TIME ZONE '';"
        ++ (" DROP TABLE t', '%Y-%m-%d %H:%i:%s') AS \"User Creation Date\" FROM (SELECT * FROM "
        ++ "learning_courseuser_aggregate WHERE TRUE) AS lcu_a JOIN (SELECT * FROM core_user WHERE "
        ++ "TRUE) AS cu ON cu.idst = lcu_a.idUser JOIN (SELECT * FROM learning_course WHERE TRUE) "
        ++ "AS lc ON lc.idCourse = lcu_a.idCourse WHERE TRUE AND cu.userid <> '/Anonymous' "
        ++ "ORDER BY 1 ASC LIMIT 1000000") := by
    refine ⟨_, rfl, Text.bytes_injective ?_⟩
    decide +kernel
  have hno : ¬OneStatement r'.sql := by
    rw [hsql]
    exact Text.not_oneStatement_append (t := .symbol ';') _ (by decide +kernel) rfl
  exact ⟨rfl, r, r', hr, hr', fun hsame => hno (hsame.oneStatement hone), hno⟩

end LearningReports
