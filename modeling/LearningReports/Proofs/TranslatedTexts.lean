import LearningReports.Proofs.ContextViews
import LearningReports.Proofs.Grouping
import LearningReports.Proofs.RequestTexts

/-! # Translated texts

The wordings and the titles of custom fields come from the directory, and stand in a query only
between quotes. Two directories that differ in nothing else lead to queries with the same tokens,
but for what stands between quotes. -/
namespace LearningReports

open Sql (Expr)
open Text (Alike isPaired SameStructure)

/-! ## Contexts -/

def untitled (fields : List (String × ResolvedField)) : List (String × ResolvedField) :=
  fields.map fun kr => (kr.1, { kr.2 with title := .null })

/-- The context with other wordings, other labels and other custom fields. -/
def Context.retold (ctx : Context) (wordings : List (String × Json)) (labels : CustomFields.Labels)
    (fields : List (String × ResolvedField)) : Context :=
  { ctx with wordings := wordings, labels := labels, customFields := fields }

def Column.skeleton (c : Column) : Column :=
  { c with live := c.live.skeleton, archived := c.archived.skeleton }

section Retold

variable (ctx : Context) (wordings : List (String × Json)) (labels : CustomFields.Labels)
  (fields : List (String × ResolvedField))

theorem skeleton_standard {t : ReportType} {f : Field} {build : Builder}
    (h : t.column? f = some build) :
    (build ctx).skeleton = (build (ctx.retold wordings labels fields)).skeleton := by
  refine t.eq_of_map_builders (v := fun b => (b ctx).skeleton)
    (w := fun b => (b (ctx.retold wordings labels fields)).skeleton) h ?_
  cases t with
  | _ => rfl

namespace CustomColumns

theorem skeleton_user (key : Expr) (r : ResolvedField) :
    (user key ctx r).skeleton = (user key (ctx.retold wordings labels fields) r).skeleton := by
  unfold user
  cases kindOf r with
  | _ => rfl

theorem skeleton_keyed (values : Table) (column : String) (key archived : Expr)
    (r : ResolvedField) : (keyed values column key archived ctx r).skeleton =
      (keyed values column key archived (ctx.retold wordings labels fields) r).skeleton := by
  unfold keyed courseLike
  cases kindOf r with
  | _ => rfl

theorem skeleton_ofEnrollments (r : ResolvedField) : (ofEnrollments ctx r).skeleton =
    (ofEnrollments (ctx.retold wordings labels fields) r).skeleton := by
  unfold ofEnrollments
  cases r.field.entity with
  | user => exact skeleton_user ..
  | course => exact skeleton_keyed ..
  | _ => rfl

end CustomColumns

theorem skeleton_customColumn (t : ReportType) (r : ResolvedField) :
    (t.customColumn ctx r).skeleton =
      (t.customColumn (ctx.retold wordings labels fields) r).skeleton := by
  cases t with
  | usersCourses => exact CustomColumns.skeleton_ofEnrollments ..
  | enrollmentTime => exact CustomColumns.skeleton_ofEnrollments ..
  | assetStatistics => rfl
  | classroomSessions =>
    change (ClassroomSessions.customColumn _ r).skeleton =
      (ClassroomSessions.customColumn _ r).skeleton
    unfold ClassroomSessions.customColumn
    cases r.field.entity with
    | user => exact CustomColumns.skeleton_user ..
    | course => exact CustomColumns.skeleton_keyed ..
    | session => exact CustomColumns.skeleton_keyed ..
    | _ => rfl
  | surveyAnswers =>
    change (SurveyAnswers.customColumn _ r).skeleton = (SurveyAnswers.customColumn _ r).skeleton
    unfold SurveyAnswers.customColumn
    cases r.field.entity with
    | course => exact CustomColumns.skeleton_keyed ..
    | _ => rfl
  | planStatistics =>
    change (PlanStatistics.customColumn _ r).skeleton = (PlanStatistics.customColumn _ r).skeleton
    unfold PlanStatistics.customColumn
    cases r.field.entity with
    | plan => exact CustomColumns.skeleton_keyed ..
    | _ => rfl

variable (hfields : untitled fields = untitled ctx.customFields)
include hfields

theorem resolved?_retold (text : String) :
    (resolved? (ctx.retold wordings labels fields) text).map (fun r => { r with title := .null }) =
      (resolved? ctx text).map fun r => { r with title := .null } := by
  unfold resolved?
  split
  · next c hc =>
    rw [← Sql.lookup?_map, ← Sql.lookup?_map]
    exact congrArg (lookup? c.key) hfields
  · rfl

theorem classOf_retold (text : String) :
    classOf (ctx.retold wordings labels fields) text = classOf ctx text := by
  have hresolved :=
    congrArg Option.isSome (resolved?_retold ctx wordings labels fields hfields text)
  rw [Option.isSome_map, Option.isSome_map] at hresolved
  unfold classOf
  rw [hresolved]
  rfl

theorem fieldsOf_retold (c : FieldClass) :
    fieldsOf (ctx.retold wordings labels fields) c = fieldsOf ctx c := by
  unfold fieldsOf
  simp only [classOf_retold ctx wordings labels fields hfields]
  rfl

omit hfields in
theorem skeleton_layoutColumn {r r' : ResolvedField}
    (h : { r' with title := .null } = { r with title := .null }) :
    (Layout.customColumn ctx r).skeleton =
      (Layout.customColumn (ctx.retold wordings labels fields) r').skeleton := by
  obtain ⟨field, title, type, isMaterialized⟩ := r
  obtain ⟨field', title', type', isMaterialized'⟩ := r'
  cases h
  unfold Layout.customColumn
  dsimp only
  split
  · rw [skeleton_customColumn ctx wordings labels fields ctx.type,
      ← customColumn_title _ _ _ title']
    rfl
  · rfl

theorem skeleton_columnOf (text : String) :
    (columnOf ctx text).skeleton =
      (columnOf (ctx.retold wordings labels fields) text).skeleton := by
  have hresolved := resolved?_retold ctx wordings labels fields hfields text
  unfold columnOf
  cases hr : resolved? ctx text with
  | none =>
    have hr' : resolved? (ctx.retold wordings labels fields) text = none := by
      rw [hr] at hresolved
      exact Option.map_eq_none_iff.mp hresolved
    rw [hr']
    change _ = (((Field.ofId? text).bind ctx.type.column?).elim CustomColumns.emptyColumn
      (· (ctx.retold wordings labels fields))).skeleton
    cases hbuild : (Field.ofId? text).bind ctx.type.column? with
    | none => rfl
    | some build =>
      obtain ⟨f, -, hcolumn⟩ := Option.bind_eq_some_iff.mp hbuild
      exact skeleton_standard ctx wordings labels fields hcolumn
  | some r =>
    obtain ⟨r', hr', htitle⟩ : ∃ r', resolved? (ctx.retold wordings labels fields) text = some r' ∧
        { r' with title := .null } = { r with title := .null } := by
      rw [hr] at hresolved
      exact Option.map_eq_some_iff.mp hresolved
    rw [hr']
    exact skeleton_layoutColumn ctx wordings labels fields htitle

/-! ## Branches -/

namespace Layout

/-- The columns have the same keys and, but for what stands between quotes, the same expressions. -/
theorem skeleton_columns :
    (columns ctx).map (fun kc => (kc.1, kc.2.skeleton)) =
      (columns (ctx.retold wordings labels fields)).map fun kc => (kc.1, kc.2.skeleton) := by
  rw [columns_eq, columns_eq, fieldsOf_retold ctx wordings labels fields hfields, List.map_map,
    List.map_map]
  refine List.map_congr_left fun text _ => ?_
  exact congrArg (Prod.mk _) (skeleton_columnOf ctx wordings labels fields hfields text)

theorem support_retold (side : Side) :
    support (ctx.retold wordings labels fields) side = support ctx side := by
  have hbase : (ctx.retold wordings labels fields).type.base (ctx.retold wordings labels fields) =
      ctx.type.base ctx := by
    change ctx.type.base (ctx.retold wordings labels fields) = ctx.type.base ctx
    cases ctx.type with
    | _ => rfl
  have hparts (c : Context) : (columns c).flatMap (·.2.parts side) =
      ((columns c).map fun kc => (kc.1, kc.2.skeleton)).flatMap (·.2.parts side) := by
    rw [List.flatMap_map]
    cases side with
    | _ => rfl
  unfold support
  rw [hbase, hparts, hparts ctx, skeleton_columns ctx wordings labels fields hfields]

theorem skeleton_select (side : Side) :
    (branch ctx side).select.map (fun s => (s.1.skeleton, s.2.skeleton)) =
      (branch (ctx.retold wordings labels fields) side).select.map
        fun s => (s.1.skeleton, s.2.skeleton) := by
  have hselect (c : Context) : (branch c side).select.map
      (fun s => (s.1.skeleton, s.2.skeleton)) =
        if (columns c).map (fun kc => (kc.1, kc.2.skeleton)) = [] then [(.null, .label "")]
        else ((columns c).map fun kc => (kc.1, kc.2.skeleton)).map fun kc =>
          (kc.2.on side, .label "") := by
    simp only [select_branch, List.map_eq_nil_iff]
    split
    · rfl
    · rw [List.map_map, List.map_map]
      cases side with
      | _ => rfl
  rw [hselect, hselect, skeleton_columns ctx wordings labels fields hfields]

theorem branch_retold (side : Side) : branch (ctx.retold wordings labels fields) side =
    { branch ctx side with
      select := (branch (ctx.retold wordings labels fields) side).select } := by
  rw [branch_eq_support, branch_eq_support ctx, support_retold ctx wordings labels fields hfields]

end Layout

/-! ## Queries -/

namespace Query

theorem definitionsOf_retold :
    definitionsOf (ctx.retold wordings labels fields) = definitionsOf ctx := by
  rw [definitionsOf_eq, definitionsOf_eq, branchesOf_eq, branchesOf_eq, List.map_map, List.map_map]
  refine congrArg (List.foldl merge []) (List.map_congr_left fun side _ => ?_)
  change (Layout.branch (ctx.retold wordings labels fields) side).definitions = _
  rw [Layout.branch_retold ctx wordings labels fields hfields]
  rfl

theorem skeleton_sortKey :
    (sortKey ctx).skeleton = (sortKey (ctx.retold wordings labels fields)).skeleton := by
  have hcolumn (key : String) :
      hasColumn (ctx.retold wordings labels fields) key = hasColumn ctx key := by
    have hkeys (c : Context) : hasColumn c key =
        ((Layout.columns c).map fun kc => (kc.1, kc.2.skeleton)).any (·.1 == key) := by
      rw [List.any_map]
      rfl
    rw [hkeys, hkeys, Layout.skeleton_columns ctx wordings labels fields hfields]
  have hkey (c : Context) : (sortKey c).skeleton =
      if c.definition.sorting.selector = .custom && hasColumn c c.definition.sorting.field then
        .label ""
      else if hasColumn c c.type.defaultSort.id then .label "" else .int 1 := by
    unfold sortKey
    dsimp only
    split
    · rfl
    · split <;> rfl
  rw [hkey, hkey, hcolumn, hcolumn]
  rfl

variable {limit : Int} {use : ExportUse}

theorem alike_retold (d : Sql.Dialect) (hctx : (ofContext ctx limit use).Closed isPaired)
    (hretold : (ofContext (ctx.retold wordings labels fields) limit use).Closed isPaired) :
    Alike (d.renderQuery (ofContext ctx limit use))
      (d.renderQuery (ofContext (ctx.retold wordings labels fields) limit use)) := by
  have hbranches := hctx.branches
  have hbranches' := hretold.branches
  refine d.alike_parts ?_ ?_ (d.alike_order hctx.order hretold.order ?_) rfl
  · change Alike _ (d.renderDefinitions (definitionsOf (ctx.retold wordings labels fields)))
    rw [definitionsOf_retold ctx wordings labels fields hfields]
    exact (d.alike_definitions hctx.definitions).trans (d.alike_definitions hctx.definitions).symm
  · change Alike (" UNION ".intercalate ((branchesOf ctx).map d.renderBranch))
      (" UNION ".intercalate
        ((branchesOf (ctx.retold wordings labels fields)).map d.renderBranch))
    change ∀ b ∈ branchesOf ctx, b.Closed isPaired at hbranches
    change ∀ b ∈ branchesOf (ctx.retold wordings labels fields), b.Closed isPaired at hbranches'
    have hsides : sides (ctx.retold wordings labels fields) = sides ctx := rfl
    rw [branchesOf_eq] at hbranches hbranches' ⊢
    rw [branchesOf_eq, hsides, List.map_map, List.map_map]
    rw [hsides] at hbranches'
    exact .intercalate (Text.alike_closed (by cbv)) _ fun side hside =>
      d.alike_select (hbranches _ (List.mem_map_of_mem hside))
        (hbranches' _ (List.mem_map_of_mem hside))
        (Layout.branch_retold ctx wordings labels fields hfields side)
        (Layout.skeleton_select ctx wordings labels fields hfields side)
  · unfold ofContext
    dsimp only
    split
    · rfl
    · rw [Option.map_some, Option.map_some, skeleton_sortKey ctx wordings labels fields hfields]
      rfl

end Query

end Retold

/-! ## Labels -/

theorem map_bindKey {α β : Type} (g : α → β) (key : String) (value : α)
    (pairs : List (String × α)) : (bindKey key value pairs).map (fun p => (p.1, g p.2)) =
      bindKey key (g value) (pairs.map fun p => (p.1, g p.2)) := by
  induction pairs with
  | nil => rfl
  | cons p rest ih =>
    unfold bindKey
    rw [List.map_cons]
    dsimp only
    split
    · rfl
    · rw [List.map_cons, ih]

def AllTexts (pairs : List (String × Json)) : Prop := ∀ p ∈ pairs, ∃ text, p.2 = .str text

theorem AllTexts.fieldLabels {wordings : List (String × Json)} (h : AllTexts wordings)
    (d : Definition) : AllTexts (Gather.fieldLabels d wordings) := by
  intro p hp
  obtain ⟨f, -, rfl⟩ := List.mem_map.mp hp
  change ∃ text, (lookup? f.labelKey wordings).getD (.str f.labelKey) = .str text
  cases hlabel : lookup? f.labelKey wordings with
  | none => exact ⟨_, rfl⟩
  | some v => exact h _ (mem_of_lookup? hlabel)

namespace CustomFields

theorem allTexts_addTitles {labels : Labels} (h : AllTexts labels) (e : Entity)
    (fields : List FieldMetadata) : AllTexts (addTitles e fields labels) :=
  forall_addTitles (P := fun v => ∃ text, v = .str text) (fun title => ⟨title, rfl⟩) h

theorem titled_eq {labels : Labels} (h : AllTexts labels) (e : Entity)
    (known : List FieldMetadata) : titled e known labels = .ok (addTitles e known labels) := by
  refine titled_eq_ok_iff.mpr ⟨fun p hp => ?_, rfl⟩
  obtain ⟨text, htext⟩ := h p hp
  rw [htext]
  rfl

end CustomFields

/-! ## Two directories -/

/-- The custom fields differ in nothing but their titles. -/
def FieldMetadata.SameButTitle (f f' : FieldMetadata) : Prop := f' = { f with title := f'.title }

/-- The resolved fields stand under their keys, and differ in nothing but their titles. -/
structure SameButTitles (fields fields' : List (String × ResolvedField)) : Prop where
  others : untitled fields' = untitled fields
  keys : ∀ kr ∈ fields, kr.1 = kr.2.field.key

theorem SameButTitles.bindKey {fields fields' : List (String × ResolvedField)}
    (h : SameButTitles fields fields') {key : String} {r r' : ResolvedField}
    (hkey : key = r.field.key) (hr : { r' with title := .null } = { r with title := .null }) :
    SameButTitles (bindKey key r fields) (bindKey key r' fields') where
  others := by
    have hbind (key : String) (r : ResolvedField) (fields : List (String × ResolvedField)) :
        untitled (LearningReports.bindKey key r fields) =
          LearningReports.bindKey key { r with title := .null } (untitled fields) :=
      map_bindKey (fun r : ResolvedField => ({ r with title := .null } : ResolvedField)) key r
        fields
    rw [hbind, hbind, hr, h.others]
  keys kr hkr := by
    rcases mem_bindKey hkr with rfl | hkr
    · exact hkey
    · exact h.keys kr hkr

theorem SameButTitles.keys_right {fields fields' : List (String × ResolvedField)}
    (h : SameButTitles fields fields') : ∀ kr ∈ fields', kr.1 = kr.2.field.key := by
  intro kr hkr
  have hmem : (kr.1, { kr.2 with title := .null }) ∈ untitled fields := by
    rw [← h.others]
    exact List.mem_map_of_mem hkr
  obtain ⟨kr', hkr', heq⟩ := List.mem_map.mp hmem
  have hkey := h.keys kr' hkr'
  rw [(Prod.mk.inj heq).1] at hkey
  exact hkey.trans (congrArg (·.field.key) (Prod.mk.inj heq).2)

namespace CustomFields

structure Resolution.SameButTexts (r r' : Resolution) : Prop where
  fields : SameButTitles r.fields r'.fields
  labels : AllTexts r.labels ∧ AllTexts r'.labels

theorem together_resolveOne (w : Warehouse) (wanted : List CustomField) (labels labels' : Labels)
    {done done' : List (String × ResolvedField)} {f f' : FieldMetadata} (hf : f.SameButTitle f')
    (hdone : SameButTitles done done') : Together (m := Outcome)
      (resolveOne w wanted labels done f) (resolveOne w wanted labels' done' f') SameButTitles := by
  rw [hf]
  unfold resolveOne
  dsimp only
  split
  · exact .pure hdone
  · next field _ =>
    refine Together.bind (m := Outcome) (x := field.isMaterialized w) (R := Eq)
      (.refl _ fun _ _ => rfl) ?_
    rintro materialized _ rfl
    exact .pure (hdone.bindKey rfl rfl)

theorem together_resolveEntity (w : Warehouse) (e : Entity) (wanted : List CustomField)
    {known known' : List FieldMetadata}
    (hknown : List.Forall₂ FieldMetadata.SameButTitle known known') {r r' : Resolution}
    (hr : r.SameButTexts r') : Together (m := Outcome)
      (resolveEntity w e wanted known r) (resolveEntity w e wanted known' r')
        Resolution.SameButTexts := by
  have hresolved (r : Resolution) (h : AllTexts r.labels) (known : List FieldMetadata) :
      resolveEntity w e wanted known r =
        (fun fields => { fields := fields, labels := addTitles e known r.labels }) <$>
          known.foldlM (resolveOne w wanted (addTitles e known r.labels)) r.fields := by
    unfold resolveEntity
    rw [titled_eq h, map_eq_pure_bind]
    rfl
  rw [hresolved r hr.labels.1, hresolved r' hr.labels.2]
  refine Together.map (m := Outcome) (Together.foldlM hknown
    (fun _ _ _ _ hf hdone => together_resolveOne w wanted _ _ hf hdone) hr.fields) ?_
  exact fun fields fields' hfields =>
    ⟨hfields, allTexts_addTitles hr.labels.1 e known, allTexts_addTitles hr.labels.2 e known'⟩

end CustomFields

section Service

variable {m : Type → Type} [Monad m] [MonadExceptOf Failure m] [MonadAttach m]

/-- The directories answer with texts where they are asked for wordings, and differ in nothing but
these and the titles of custom fields. -/
structure Directory.SameButTexts (dir dir' : Directory m) : Prop where
  others : dir' = { dir with wordings := dir'.wordings, customFields := dir'.customFields }
  wordings : ∀ keys language, Together (dir.wordings keys language) (dir'.wordings keys language)
    fun ws ws' => AllTexts ws ∧ AllTexts ws'
  customFields : ∀ e, Together (dir.customFields e) (dir'.customFields e)
    (List.Forall₂ FieldMetadata.SameButTitle)

structure Context.SameButTexts (ctx ctx' : Context) : Prop where
  others : ctx' = ctx.retold ctx'.wordings ctx'.labels ctx'.customFields
  fields : SameButTitles ctx.customFields ctx'.customFields

variable [LawfulService m] {dir dir' : Directory m} (h : dir.SameButTexts dir')
include h

namespace CustomFields

theorem together_resolveEntities (w : Warehouse) (fields : List CustomField)
    (entities : List Entity) {r r' : Resolution} (hr : r.SameButTexts r') :
    Together (resolveEntities dir w fields entities r) (resolveEntities dir' w fields entities r')
      Resolution.SameButTexts := by
  induction entities generalizing r r' with
  | nil => exact .pure hr
  | cons e es ih =>
    unfold resolveEntities
    dsimp only
    split
    · exact ih hr
    · refine (h.customFields e).bind fun known known' hknown => ?_
      exact (Together.lift (together_resolveEntity w e _ hknown hr)).bind fun _ _ => ih

theorem together_resolve (w : Warehouse) (texts : List String) (entities : List Entity)
    {labels labels' : Labels} (hlabels : AllTexts labels ∧ AllTexts labels') :
    Together (resolve dir w texts entities labels) (resolve dir' w texts entities labels')
      Resolution.SameButTexts := by
  refine (Together.refl (selected texts).lift (R := Eq) fun _ _ => rfl).bind ?_
  rintro fields _ rfl
  refine together_resolveEntities h w fields entities ⟨⟨rfl, fun kr hkr => ?_⟩, hlabels⟩
  cases hkr

end CustomFields

omit [MonadExceptOf Failure m] [LawfulService m] in
theorem Selection.branchMembers_eq_of_sameButTexts (branches : List SelectedItem) :
    branchMembers dir branches = branchMembers dir' branches := by
  have hwalk (fuel : Nat) (w : Walk) (level : List Int) :
      walkFrom dir fuel w level = walkFrom dir' fuel w level := by
    induction fuel generalizing w level with
    | zero => rfl
    | succ fuel ih =>
      simp only [walkFrom, ih]
      rw [h.others]
  simp only [branchMembers, hwalk]
  rw [h.others]

omit [MonadExceptOf Failure m] [LawfulService m] in
theorem Gather.filters_eq_of_sameButTexts (d : Definition) (s : Session) (checkVisibility : Bool) :
    filters dir d s checkVisibility = filters dir' d s checkVisibility := by
  have hof : filtersOf dir d s checkVisibility = filtersOf dir' d s checkVisibility := by
    funext done k
    cases k with
    | users =>
      simp only [filtersOf, Selection.users, Selection.pickedUsers,
        Selection.branchMembers_eq_of_sameButTexts h]
      rw [h.others]
      rfl
    | _ =>
      rw [h.others]
      rfl
  rw [filters, filters, hof]

theorem Selection.together_userConditions (d : Definition) :
    Together (userConditions dir d) (userConditions dir' d) Eq := by
  unfold userConditions
  split
  · refine (h.customFields .user).bind fun fields fields' hfields => ?_
    have hknown : (fields'.filter (·.type == dropdownType)).map (·.id) =
        (fields.filter (·.type == dropdownType)).map (·.id) := by
      induction hfields with
      | nil => rfl
      | cons hf _ ih =>
        rw [hf, List.filter_cons, List.filter_cons]
        dsimp only
        split
        · exact congrArg (List.cons _) ih
        · exact ih
    rw [hknown]
    exact .pure rfl
  · exact .pure rfl

theorem Gather.together_context (w : Warehouse) (d : Definition) (s : Session)
    (checkVisibility : Bool) : Together (context dir w d s checkVisibility)
      (context dir' w d s checkVisibility) fun ctx ctx' =>
        ctx.definition = d ∧ ctx.session = s ∧ ctx.SameButTexts ctx' := by
  refine (h.wordings _ _).bind fun wordings wordings' hwordings => ?_
  refine (CustomFields.together_resolve h w d.fields d.type.entities
    ⟨hwordings.1.fieldLabels d, hwordings.2.fieldLabels d⟩).bind fun custom custom' hcustom => ?_
  rw [← filters_eq_of_sameButTexts h d s checkVisibility]
  refine (Together.refl (filters dir d s checkVisibility) (R := Eq) fun _ _ => rfl).bind ?_
  rintro filters _ rfl
  dsimp only
  split
  · refine (Selection.together_userConditions h d).bind ?_
    rintro conditions _ rfl
    exact .pure ⟨rfl, rfl, rfl, hcustom.fields⟩
  · rw [pure_bind, pure_bind]
    exact .pure ⟨rfl, rfl, rfl, hcustom.fields⟩

omit h

/-- The reports of both contexts have the same tokens, but for what stands between quotes. -/
theorem sameStructure_of_sameButTexts {ctx ctx' : Context} (h : ctx.SameButTexts ctx')
    (hd : ctx.definition.Harmless ctx.session) (engine : Sql.Dialect) (o : CompileOptions) :
    SameStructure (Report.compiled ctx engine o).sql (Report.compiled ctx' engine o).sql := by
  have hctx : (Query.ofContext ctx o.limit o.use).Closed isPaired :=
    Query.closed_of_harmless hd (fun _ _ hr => h.fields.keys _ (mem_of_lookup? hr)) _ _
  have hctx' : (Query.ofContext ctx' o.limit o.use).Closed isPaired := by
    refine Query.closed_of_harmless ?_ (fun _ _ hr => h.fields.keys_right _ (mem_of_lookup? hr)) _ _
    rw [h.others]
    exact hd
  rw [h.others] at hctx' ⊢
  exact (Query.alike_retold ctx _ _ _ h.fields.others engine hctx hctx').sameStructure

/-- Directories that differ only in wordings and in the titles of custom fields are asked for the
same, and what they tell stands between quotes. -/
theorem compile_quotes_wordings {dir dir' : Directory m} (h : dir.SameButTexts dir')
    {w : Warehouse} {d : Definition} {s : Session} (engine : Sql.Dialect) (o : CompileOptions)
    (hd : d.Harmless s) :
    Together (Report.compile dir w d s engine o) (Report.compile dir' w d s engine o) fun r r' =>
      SameStructure r.sql r'.sql ∧ r.columns.length = r'.columns.length ∧
        r.unmapped = r'.unmapped ∧ r.dropped = r'.dropped := by
  refine (Together.refl (Report.checkEngine d.type engine).lift (R := Eq) fun _ _ => rfl).bind ?_
  rintro _ _ -
  refine (Gather.together_context h w d s o.checkVisibility).bind fun ctx ctx' hctx => .pure ?_
  obtain ⟨rfl, rfl, hsame⟩ := hctx
  refine ⟨sameStructure_of_sameButTexts hsame hd engine o, ?_, ?_, ?_⟩
  · have hcolumns := congrArg List.length
      (Layout.skeleton_columns ctx ctx'.wordings ctx'.labels _ hsame.fields.others)
    rw [← hsame.others, List.length_map, List.length_map] at hcolumns
    simpa only [Report.compiled, Layout.labels, List.length_map] using hcolumns
  · change Layout.unmapped ctx = Layout.unmapped ctx'
    rw [unmapped_eq, unmapped_eq, hsame.others,
      fieldsOf_retold ctx ctx'.wordings ctx'.labels _ hsame.fields.others]
  · change Layout.dropped ctx = Layout.dropped ctx'
    rw [dropped_eq, dropped_eq, hsame.others,
      fieldsOf_retold ctx ctx'.wordings ctx'.labels _ hsame.fields.others]

end Service

/-- The directory that words everything by one text, which is also the title of every custom
field. -/
def saying (text : String) : Directory Outcome :=
  { Records.directory { session := reader } with
    wordings := fun keys _ => .ok (keys.map fun key => (key, .str text))
    customFields := fun _ => .ok [{ id := 4, title := text, type := Selection.dropdownType }] }

theorem sameButTexts_saying (text text' : String) :
    (saying text).SameButTexts (saying text') where
  others := rfl
  wordings keys language := by
    have htexts (text : String) : AllTexts (keys.map fun key => (key, .str text)) := by
      intro p hp
      obtain ⟨key, -, rfl⟩ := List.mem_map.mp hp
      exact ⟨text, rfl⟩
    exact .pure ⟨htexts text, htexts text'⟩
  customFields e := .pure (.cons rfl .nil)

/-- A report on a custom field of the users, and on the state of enrollments and the level of the
users in words. -/
def onStates : Definition :=
  { idReport := "", type := .usersCourses
    fields := ["user_extrafield_4", "courseuser_status", "courseuser_level"] }

theorem harmless_onStates : onStates.Harmless reader where
  zone _ := by decide
  dates := ⟨rfl, rfl, rfl, rfl, rfl, rfl, fun s hs => by cases hs⟩
  codes _ := ⟨by decide, by decide⟩

theorem compile_quotes_wordings_states :
    (saying "State").SameButTexts (saying "'\"; DROP TABLE t") ∧ onStates.Harmless reader ∧
      ∃ r r', Report.compile (saying "State") .complete onStates reader .snowflake {} = .ok r ∧
        Report.compile (saying "'\"; DROP TABLE t") .complete onStates reader .snowflake {} =
          .ok r' ∧
        r.unmapped = [] ∧
        SameStructure r.sql r'.sql ∧ r.columns.length = r'.columns.length ∧
        r.unmapped = r'.unmapped ∧ r.dropped = r'.dropped := by
  have htexts := sameButTexts_saying "State" "'\"; DROP TABLE t"
  have htogether : Together (Report.compile (m := Outcome) (saying "State") .complete onStates
      reader .snowflake {}) (Report.compile (saying "'\"; DROP TABLE t") .complete onStates reader
        .snowflake {}) _ :=
    compile_quotes_wordings htexts .snowflake {} harmless_onStates
  exact ⟨htexts, harmless_onStates, _, _, rfl, rfl, rfl, htogether.of_ok rfl rfl⟩

end LearningReports
