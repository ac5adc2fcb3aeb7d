import LearningReports.Directory.Records
import LearningReports.Proofs.Gathered
import LearningReports.Proofs.Resolution
import LearningReports.Proofs.ResultColumns

/-! # Every field is accounted for

Each selected field is dropped, unmapped or emitted. The report lists the first two kinds, and has
one result column for each field of the third, under its label. -/
namespace LearningReports

open MonadAttach (CanReturn)
open Text (Occurs)

/-! ## Classes of fields -/

inductive FieldClass where
  | dropped
  | unmapped
  | emitted
  deriving Repr, DecidableEq

def isGatedOff (t : ReportType) (p : Platform) (text : String) : Bool :=
  ((Field.ofId? text).bind t.gate?).any fun feature => !p.hasFeature feature

def isStandard (t : ReportType) (text : String) : Bool :=
  ((Field.ofId? text).bind t.column?).isSome

/-- The custom field that was resolved for the text. -/
def resolved? (ctx : Context) (text : String) : Option ResolvedField :=
  match CustomField.parse text with
  | .ok (some c) => lookup? c.key ctx.customFields
  | _ => none

def classOf (ctx : Context) (text : String) : FieldClass :=
  if isGatedOff ctx.type ctx.session.platform text then .dropped
  else if isStandard ctx.type text || (resolved? ctx text).isSome then .emitted
  else .unmapped

/-- The label of an emitted field: the title of a custom field, or the wording of a standard one. -/
def labelOf (ctx : Context) (text : String) : Json :=
  match resolved? ctx text, Field.ofId? text with
  | some r, _ => r.title
  | none, some f => (lookup? f.labelKey ctx.wordings).getD (.str f.labelKey)
  | none, none => .null

def columnOf (ctx : Context) (text : String) : Column :=
  match resolved? ctx text with
  | some r => Layout.customColumn ctx r
  | none => ((Field.ofId? text).bind ctx.type.column?).elim CustomColumns.emptyColumn (· ctx)

/-- The key of an emitted field: custom fields have one of their own. -/
def columnKey (text : String) : String :=
  match CustomField.parse text with
  | .ok (some c) => c.key
  | _ => text

/-- The selected texts of a class, in order and with repetitions. -/
def fieldsOf (ctx : Context) (c : FieldClass) : List String :=
  ctx.definition.fields.filter fun text => classOf ctx text = c

theorem mem_fieldsOf {ctx : Context} {c : FieldClass} {text : String} :
    text ∈ fieldsOf ctx c ↔ text ∈ ctx.definition.fields ∧ classOf ctx text = c := by
  simp [fieldsOf]

theorem isDropped_eq (ctx : Context) (text : String) :
    Layout.isDropped ctx text = isGatedOff ctx.type ctx.session.platform text := by
  unfold Layout.isDropped isGatedOff
  cases (Field.ofId? text).bind ctx.type.gate? <;> rfl

private theorem isSome_column?_of_gate? : ∀ t ∈ ReportType.all, ∀ f ∈ Field.all,
    (t.gate? f).isSome = true → (t.column? f).isSome = true := by
  decide +kernel

theorem isStandard_of_isGatedOff {t : ReportType} {p : Platform} {text : String}
    (h : isGatedOff t p text = true) : isStandard t text = true := by
  obtain ⟨feature, hfeature, -⟩ := (Option.any_eq_true _ _).mp h
  obtain ⟨f, hf, hgate⟩ := Option.bind_eq_some_iff.mp hfeature
  rw [isStandard, hf]
  exact isSome_column?_of_gate? t t.mem_all f f.mem_all (by rw [hgate]; rfl)

/-- A resolved custom field depends on no feature, so it is emitted. -/
theorem classOf_of_resolved {ctx : Context} {text : String}
    (h : (resolved? ctx text).isSome = true) : classOf ctx text = .emitted := by
  have hcustom : Field.ofId? text = none := by
    cases hf : Field.ofId? text with
    | none => rfl
    | some f =>
      rw [resolved?, parse_of_ofId? hf] at h
      cases h
  have hgate : isGatedOff ctx.type ctx.session.platform text = false := by
    rw [isGatedOff, hcustom]
    rfl
  simp [classOf, hgate, h]

theorem classOf_eq_unmapped_iff {ctx : Context} {text : String} :
    classOf ctx text = .unmapped ↔
      isStandard ctx.type text = false ∧ (resolved? ctx text).isSome = false := by
  unfold classOf
  split
  · next hgate => simp [isStandard_of_isGatedOff hgate]
  · split
    · next hemitted =>
      refine iff_of_false FieldClass.noConfusion fun ⟨hstandard, hresolved⟩ => ?_
      rw [hstandard, hresolved] at hemitted
      exact Bool.false_ne_true hemitted
    · next hunmapped => simpa using hunmapped

def Fate.fieldClass : Fate → FieldClass
  | .dropped => .dropped
  | .unmapped => .unmapped
  | .column _ _ => .emitted

theorem classOf_eq (ctx : Context) (text : String) :
    classOf ctx text = (Layout.fate ctx text).fieldClass := by
  have hfated := Layout.fated ctx text
  unfold classOf
  rw [← isDropped_eq]
  cases hf : Layout.fate ctx text <;> rw [hf] at hfated <;> cases hfated
  case dropped h => rw [if_pos h]; rfl
  case unmapped hd hs hc =>
    have hresolved : resolved? ctx text = none := by
      unfold resolved?
      split
      · next c hp => exact hc c hp
      · rfl
    simp [hd, isStandard, hs, hresolved, Fate.fieldClass]
  case column.custom hd hp hr => simp [hd, resolved?, hp, hr, Fate.fieldClass]
  case column.standard hd hs hb => simp [hd, isStandard, hs, hb, Fate.fieldClass]

theorem eq_of_fated {ctx : Context} {text key : String} {c : Column}
    (h : Layout.Fated ctx text (.column key c)) : key = columnKey text ∧ c = columnOf ctx text := by
  cases h with
  | custom hd hp hr => simp [columnKey, columnOf, resolved?, hp, hr]
  | standard hd hf hb => simp [columnKey, columnOf, resolved?, parse_of_ofId? hf, hf, hb]

/-! ## Labels -/

theorem ofId?_of_mem_standardFields {d : Definition} {f : Field}
    (h : f ∈ Gather.standardFields d) : Field.ofId? f.id = some f := by
  obtain ⟨text, -, hf⟩ := List.mem_filterMap.mp (List.mem_eraseDups.mp h)
  rw [Field.id_of_ofId? hf]
  exact hf

theorem lookup?_map_id {α : Type} {fields : List Field} {g : Field → α} {f : Field}
    (hf : f ∈ fields) (hall : ∀ f' ∈ fields, Field.ofId? f'.id = some f') :
    lookup? f.id (fields.map fun f' => (f'.id, g f')) = some (g f) := by
  induction fields with
  | nil => exact absurd hf List.not_mem_nil
  | cons f' fs ih =>
    rw [List.map_cons, lookup?]
    split
    · next hid =>
      have hsame := (hall f' (.head _)).symm.trans (hid ▸ hall f hf)
      cases hsame
      rfl
    · next hid =>
      refine ih ?_ fun f'' h => hall f'' (.tail _ h)
      rcases List.mem_cons.mp hf with rfl | hf
      · exact absurd rfl hid
      · exact hf

theorem lookup?_fieldLabels {d : Definition} {wordings : List (String × Json)} {text : String}
    {f : Field} (htext : text ∈ d.fields) (hf : Field.ofId? text = some f) :
    lookup? text (Gather.fieldLabels d wordings) =
      some ((lookup? f.labelKey wordings).getD (.str f.labelKey)) := by
  have hmem : f ∈ Gather.standardFields d :=
    List.mem_eraseDups.mpr (List.mem_filterMap.mpr ⟨text, htext, hf⟩)
  rw [← Field.id_of_ofId? hf]
  exact lookup?_map_id hmem fun f' => ofId?_of_mem_standardFields

section Service

variable {m : Type → Type} [Monad m] [MonadExceptOf Failure m] [MonadAttach m] [LawfulService m]

theorem label_columnKey {dir : Directory m} {w : Warehouse} {d : Definition} {s : Session}
    {checkVisibility : Bool} {ctx : Context} (hctx : Gathered dir w d s checkVisibility ctx)
    {text : String} (h : text ∈ fieldsOf ctx .emitted) :
    ctx.label (columnKey text) = labelOf ctx text := by
  obtain ⟨htext, hclass⟩ := mem_fieldsOf.mp h
  obtain ⟨htitles, hframe⟩ := CustomFields.titles_of_resolve hctx.custom d.type.nodup_entities
  rw [classOf_eq] at hclass
  have hfated := Layout.fated ctx text
  cases hfate : Layout.fate ctx text <;> rw [hfate] at hfated hclass <;> cases hclass
  cases hfated with
  | custom hd hp hr =>
    have hlookup := htitles _ _ hr
    simp only at hlookup
    simp [columnKey, Context.label, hlookup, labelOf, resolved?, hp, hr]
  | standard hd hf hb =>
    have hparse := parse_of_ofId? hf
    have hkey : ∀ e n, text ≠ CustomField.keyOf e n := by
      intro e n heq
      rw [← Field.id_of_ofId? hf] at heq
      exact CustomField.keyOf_ne_id e n _ heq.symm
    have hlookup := hframe text hkey
    rw [hctx.definition] at htext
    rw [lookup?_fieldLabels htext hf] at hlookup
    simp only at hlookup
    simp [columnKey, Context.label, hlookup, labelOf, resolved?, hparse, hf]

end Service

/-! ## Lists of a report -/

theorem filterMap_eq_filter_map {α β : Type} {as : List α} {f : α → Option β} {p : α → Bool}
    {g : α → β} (h : ∀ a ∈ as, f a = if p a then some (g a) else none) :
    as.filterMap f = (as.filter p).map g := by
  induction as with
  | nil => rfl
  | cons a as ih =>
    have hrest := ih fun b hb => h b (.tail _ hb)
    have ha := h a (.head _)
    cases hp : p a <;> simp [hp] at ha <;> simp [ha, hp, hrest]

theorem filterMap_fates {α : Type} {ctx : Context} {pick : String × Fate → Option α}
    {c : FieldClass} {g : String → α} (h : ∀ text, pick (text, Layout.fate ctx text) =
      if (Layout.fate ctx text).fieldClass = c then some (g text) else none) :
    (Layout.fates ctx).filterMap pick = (fieldsOf ctx c).map g := by
  unfold Layout.fates fieldsOf
  rw [List.filterMap_map]
  refine filterMap_eq_filter_map fun text _ => ?_
  rw [classOf_eq]
  simpa using h text

theorem dropped_eq (ctx : Context) : Layout.dropped ctx = fieldsOf ctx .dropped := by
  rw [← List.map_id (fieldsOf ctx .dropped)]
  refine filterMap_fates fun text => ?_
  cases Layout.fate ctx text <;> rfl

theorem unmapped_eq (ctx : Context) : Layout.unmapped ctx = fieldsOf ctx .unmapped := by
  rw [← List.map_id (fieldsOf ctx .unmapped)]
  refine filterMap_fates fun text => ?_
  cases Layout.fate ctx text <;> rfl

theorem columns_eq (ctx : Context) : Layout.columns ctx =
    (fieldsOf ctx .emitted).map fun text => (columnKey text, columnOf ctx text) := by
  refine filterMap_fates fun text => ?_
  have hfated := Layout.fated ctx text
  cases hfate : Layout.fate ctx text with
  | dropped => rfl
  | unmapped => rfl
  | column key c =>
    rw [hfate] at hfated
    obtain ⟨rfl, rfl⟩ := eq_of_fated hfated
    rfl

theorem length_fieldsOf (ctx : Context) :
    (fieldsOf ctx .dropped).length + (fieldsOf ctx .unmapped).length
      + (fieldsOf ctx .emitted).length = ctx.definition.fields.length := by
  unfold fieldsOf
  induction ctx.definition.fields with
  | nil => rfl
  | cons text texts ih =>
    cases hc : classOf ctx text <;> simp [hc] <;> omega

def itemOf (ctx : Context) (engine : Sql.Dialect) (text : String) : String :=
  engine.render (columnOf ctx text).live ++ " AS " ++ Text.quote '"' (labelOf ctx text).asText

/-- The account that a report gives of the fields of its definition. -/
structure Accounted (ctx : Context) (engine : Sql.Dialect) (r : Compiled) : Prop where
  counted : (fieldsOf ctx .dropped).length + (fieldsOf ctx .unmapped).length
    + (fieldsOf ctx .emitted).length = ctx.definition.fields.length
  dropped : r.dropped = fieldsOf ctx .dropped
  unmapped : r.unmapped = fieldsOf ctx .unmapped
  columns : r.columns = (fieldsOf ctx .emitted).map (labelOf ctx)
  /-- The live branch selects one item for each emitted field, named by the label. -/
  items : fieldsOf ctx .emitted ≠ [] →
    (Layout.live ctx).select.map engine.renderSelected =
      (fieldsOf ctx .emitted).map (itemOf ctx engine)
  /-- The query shows the items when it has the branch. -/
  shown : Query.emits ctx .live = true →
    Occurs ("SELECT " ++ ", ".intercalate ((Layout.live ctx).select.map engine.renderSelected)
      ++ " FROM ") r.sql
  /-- Without emitted fields, and only then, the placeholder stands alone. -/
  placeholder : (Layout.live ctx).select.map engine.renderSelected = ["NULL AS \"-\""] ∧
    r.columns = [] ↔ fieldsOf ctx .emitted = []

theorem selected_live (ctx : Context) (engine : Sql.Dialect) (h : ∀ text ∈ fieldsOf ctx .emitted,
      ctx.label (columnKey text) = labelOf ctx text) :
    (Layout.live ctx).select.map engine.renderSelected =
      if fieldsOf ctx .emitted = [] then ["NULL AS \"-\""]
      else (fieldsOf ctx .emitted).map (itemOf ctx engine) := by
  have hselect := select_branch ctx .live
  simp only [columns_eq, List.map_eq_nil_iff, List.map_map] at hselect
  change (Layout.branch ctx .live).select.map engine.renderSelected = _
  rw [hselect]
  split
  · cases engine <;> rfl
  · rw [List.map_map]
    refine List.map_congr_left fun text htext => ?_
    change _ ++ Text.quote '"' (ctx.label (columnKey text)).asText = _
    rw [h text htext]
    rfl

section Service

variable {m : Type → Type} [Monad m] [MonadExceptOf Failure m] [MonadAttach m] [LawfulService m]

theorem accounted_of_gathered {dir : Directory m} {w : Warehouse} {d : Definition} {s : Session}
    {checkVisibility : Bool} {ctx : Context} (hctx : Gathered dir w d s checkVisibility ctx)
    (engine : Sql.Dialect) (o : CompileOptions) :
    Accounted ctx engine (Report.compiled ctx engine o) := by
  have hlabel : ∀ text ∈ fieldsOf ctx .emitted, ctx.label (columnKey text) = labelOf ctx text :=
    fun text htext => label_columnKey hctx htext
  have hselected := selected_live ctx engine hlabel
  have hcolumns : (Report.compiled ctx engine o).columns =
      (fieldsOf ctx .emitted).map (labelOf ctx) := by
    change (Layout.columns ctx).map _ = _
    rw [columns_eq, List.map_map]
    exact List.map_congr_left hlabel
  refine ⟨length_fieldsOf ctx, dropped_eq ctx, unmapped_eq ctx, hcolumns, ?_, ?_, ?_⟩
  · intro hsome
    rw [hselected, if_neg hsome]
  · intro hemits
    have hbranch : Layout.live ctx ∈ Query.branchesOf ctx :=
      Query.mem_branchesOf.mpr ⟨.live, hemits, rfl⟩
    refine .trans ?_ (occurs_renderQuery hbranch)
    exact .append_right _ (.append_right _ (.append_right _ (.append_right _ (.refl _))))
  · rw [hcolumns, List.map_eq_nil_iff, hselected]
    refine ⟨fun h => h.2, fun h => ⟨if_pos h, h⟩⟩

/-- The resolved custom fields are those of the type's entities that the directory knows. -/
def ResolvesKnown (dir : Directory m) (ctx : Context) : Prop :=
  ∃ known : Entity → List FieldMetadata, ∀ text ∈ ctx.definition.fields, ∀ c,
    CustomField.parse text = .ok (some c) →
      (c.entity ∈ ctx.type.entities →
        CanReturn (dir.customFields c.entity) (known c.entity)) ∧
      ((resolved? ctx text).isSome = true ↔
        c.entity ∈ ctx.type.entities ∧ CustomFields.Knows (known c.entity) c)

theorem resolvesKnown_of_gathered {dir : Directory m} {w : Warehouse} {d : Definition}
    {s : Session} {checkVisibility : Bool} {ctx : Context}
    (hctx : Gathered dir w d s checkVisibility ctx) : ResolvesKnown dir ctx := by
  obtain ⟨fields, known, hfields, hanswers, hiff⟩ :=
    CustomFields.isSome_lookup?_resolve hctx.custom d.type.nodup_entities
  refine ⟨known, fun text htext c hparse => ?_⟩
  rw [hctx.definition] at htext
  have hc : c ∈ fields := CustomFields.mem_selected hfields htext hparse
  have htype : ctx.type = d.type := congrArg Definition.type hctx.definition
  rw [htype, resolved?, hparse]
  exact ⟨hanswers c hc, hiff c hc⟩

/-- Every compiled report accounts for the fields of its definition. -/
theorem compile_accounts_for_fields {dir : Directory m} {w : Warehouse} {d : Definition}
    {s : Session} {engine : Sql.Dialect} {o : CompileOptions} {r : Compiled}
    (h : CanReturn (Report.compile dir w d s engine o) r) :
    ∃ ctx, Gathered dir w d s o.checkVisibility ctx ∧ ResolvesKnown dir ctx ∧
      Accounted ctx engine r := by
  obtain ⟨-, ctx, -, hctx, rfl⟩ := gathered_of_compile h
  exact ⟨ctx, hctx, resolvesKnown_of_gathered hctx, accounted_of_gathered hctx engine o⟩

end Service

def plainUser : Session := { idUser := 4 }

/-- A directory that knows one custom field of users. -/
def knowing : Directory Outcome :=
  Records.directory
    { session := plainUser
      customFields := [("user", .arr [.obj [("id", .int 3), ("title", .str "Office")]])] }

def knownOffice : Entity → List FieldMetadata
  | .user => [{ id := 3, title := "Office", type := "" }]
  | _ => []

/-- A report on a standard field, a custom one, one that depends on a feature and an unknown one. -/
def onFourFields : Definition :=
  { idReport := "", type := .usersCourses
    fields := ["user_userid", "user_extrafield_3", "courseuser_assignment_type", "shoe_size"] }

theorem compile_accounts_for_fields_four :
    ∃ r, Report.compile knowing .complete onFourFields plainUser .athena {} = .ok r ∧
      ∃ ctx, Gathered knowing .complete onFourFields plainUser true ctx ∧
        ResolvesKnown knowing ctx ∧ Accounted ctx .athena r := by
  obtain ⟨r, hr⟩ : ∃ r,
      Report.compile knowing .complete onFourFields plainUser .athena {} = .ok r := ⟨_, rfl⟩
  have hreturn : CanReturn
      (Report.compile knowing .complete onFourFields plainUser .athena {}) r := hr
  exact ⟨r, hr, compile_accounts_for_fields hreturn⟩

end LearningReports
