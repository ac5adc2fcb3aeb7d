import LearningReports.Proofs.Accounting
import LearningReports.Proofs.FirstOccurrences
import LearningReports.Proofs.ImportedDefinitions

/-! # Imported fields

An imported definition has the mandatory fields of its type and then those that the keys of the
sections stand for. All of them have a builder of the type and depend on no feature, so a report
that is compiled from the definition has a column for each. -/
namespace LearningReports

open MonadAttach (CanReturn)

/-! ## Mandatory fields first -/

namespace ReportType

theorem eraseDups_mandatoryIds (t : ReportType) : t.mandatoryIds.eraseDups = t.mandatoryIds := by
  cases t <;> decide

theorem withMandatory_eq_eraseDups (t : ReportType) (texts : List String) :
    t.withMandatory texts = (t.mandatoryIds ++ texts).eraseDups :=
  calc t.withMandatory texts
    _ = texts.foldl addNew t.mandatoryIds.eraseDups := by
      rw [eraseDups_mandatoryIds, withMandatory]
    _ = (t.mandatoryIds ++ texts).eraseDups := foldl_eraseDups (fun _ _ => rfl) ..

theorem nodup_withMandatory (t : ReportType) (texts : List String) :
    (t.withMandatory texts).Nodup := by
  rw [withMandatory_eq_eraseDups]
  exact nodup_eraseDups _

theorem withMandatory_eq (t : ReportType) (texts : List String) :
    t.withMandatory texts = t.mandatoryIds ++ (texts.removeAll t.mandatoryIds).eraseDups := by
  rw [withMandatory_eq_eraseDups, List.eraseDups_append, eraseDups_mandatoryIds]

theorem mem_withMandatory {t : ReportType} {texts : List String} {text : String} :
    text ∈ t.withMandatory texts ↔ text ∈ t.mandatoryIds ∨ text ∈ texts := by
  rw [withMandatory_eq_eraseDups, List.mem_eraseDups, List.mem_append]

end ReportType

/-! ## Fields without a gate -/

/-- The field is in the catalog of the type, has a builder and depends on no feature. -/
def ReportType.AlwaysShows (t : ReportType) (f : Field) : Prop :=
  f ∈ t.fields ∧ (t.column? f).isSome = true ∧ t.gate? f = none

instance (t : ReportType) (f : Field) : Decidable (t.AlwaysShows f) :=
  inferInstanceAs (Decidable (_ ∧ _ ∧ _))

theorem ReportType.alwaysShows_mandatory :
    ∀ t ∈ all, ∀ f ∈ t.mandatory, t.AlwaysShows f := by
  decide +kernel

theorem Field.ofId?_id (f : Field) : ofId? f.id = some f := by
  have hall : ∀ f ∈ all, ofId? f.id = some f := by
    decide +kernel
  exact hall f (mem_all f)

def Context.fieldLabel (ctx : Context) (f : Field) : Json :=
  (lookup? f.labelKey ctx.wordings).getD (.str f.labelKey)

variable {ctx : Context} {f : Field}

theorem labelOf_id (ctx : Context) (f : Field) : labelOf ctx f.id = ctx.fieldLabel f := by
  simp only [labelOf, resolved?, CustomField.parse_id, Field.ofId?_id]
  rfl

theorem classOf_of_alwaysShows (h : ctx.type.AlwaysShows f) : classOf ctx f.id = .emitted := by
  obtain ⟨-, hbuilder, hgate⟩ := h
  have hopen : isGatedOff ctx.type ctx.session.platform f.id = false := by
    simp [isGatedOff, Field.ofId?_id, hgate]
  have hstandard : isStandard ctx.type f.id = true := by
    simp [isStandard, Field.ofId?_id, hbuilder]
  rw [classOf, hopen, hstandard]
  rfl

theorem fieldsOf_emitted
    (h : ∀ text ∈ ctx.definition.fields, ∃ f, f.id = text ∧ ctx.type.AlwaysShows f) :
    fieldsOf ctx .emitted = ctx.definition.fields := by
  refine List.filter_eq_self.mpr fun text htext => ?_
  obtain ⟨f, rfl, hf⟩ := h text htext
  exact decide_eq_true (classOf_of_alwaysShows hf)

theorem fieldsOf_eq_nil {c : FieldClass} (hc : c ≠ .emitted)
    (h : ∀ text ∈ ctx.definition.fields, ∃ f, f.id = text ∧ ctx.type.AlwaysShows f) :
    fieldsOf ctx c = [] := by
  refine List.filter_eq_nil_iff.mpr fun text htext => ?_
  obtain ⟨f, rfl, hf⟩ := h text htext
  rw [classOf_of_alwaysShows hf]
  simpa using hc.symm

/-- A report that shows all fields of its definition, under their labels. -/
structure ShowsAll (ctx : Context) (r : Compiled) : Prop where
  unmapped : r.unmapped = []
  dropped : r.dropped = []
  columns : r.columns = ctx.definition.fields.map (labelOf ctx)

theorem showsAll_of_accounted {engine : Sql.Dialect} {r : Compiled} (h : Accounted ctx engine r)
    (hall : ∀ text ∈ ctx.definition.fields, ∃ f, f.id = text ∧ ctx.type.AlwaysShows f) :
    ShowsAll ctx r := by
  refine ⟨?_, ?_, ?_⟩
  · rw [h.unmapped, fieldsOf_eq_nil (by decide) hall]
  · rw [h.dropped, fieldsOf_eq_nil (by decide) hall]
  · rw [h.columns, fieldsOf_emitted hall]

namespace Legacy

/-! ## Selected keys -/

/-- The keys that a section gives, in order: the elements that are texts, or the keys of an object
that are on. -/
def givenKeys : Json → List String
  | .obj ms => (ms.filter (·.2.isPresent)).map (·.1)
  | .arr items => items.filterMap Json.text?
  | .str s => s.toList.map String.singleton
  | _ => []

def sectionOf (data : Json) (name : String) : Json :=
  ((data.member? "fields").bind (·.member? name)).getD .null

/-- The given keys of a section that stand for fields, each with its field. -/
def mappedKeys (data : Json) (name : String) (map : FieldMap) : List (String × Field) :=
  (givenKeys (sectionOf data name)).filterMap fun key => (lookup? key map).map (key, ·)

/-- The mapped keys of all sections, each with the name of its section before it. -/
def selectedKeys (data : Json) (maps : List (String × FieldMap)) : List (String × Field) :=
  maps.flatMap fun (name, map) =>
    (mappedKeys data name map).map fun (key, f) => (name ++ "." ++ key, f)

theorem eq_of_fieldOf {map : FieldMap} {key : Json} {found : Option (String × Field)}
    (h : fieldOf map key = .ok found) :
    found = key.text?.bind fun s => (lookup? s map).map (s, ·) := by
  cases key with
  | str s => exact (Except.ok.inj h).symm
  | _ =>
    cases h
    try rfl

theorem givenKeys_of_absent {given : Json} (h : given.isPresent = false) :
    givenKeys given = [] := by
  cases given with
  | obj ms =>
    cases ms with
    | nil => rfl
    | cons => cases h
  | arr items =>
    cases items with
    | nil => rfl
    | cons => cases h
  | str s =>
    have hs : s = "" := by simpa [Json.isPresent] using h
    rw [hs]
    rfl
  | _ => rfl

theorem filterMap_text?_of_elements {given : Json} {keys : List Json}
    (h : given.elements = .ok keys) (hobj : ∀ ms, given ≠ .obj ms) :
    keys.filterMap Json.text? = givenKeys given := by
  cases given with
  | obj ms => exact absurd rfl (hobj ms)
  | arr items =>
    cases h
    rfl
  | str s =>
    cases h
    simp [givenKeys, List.filterMap_map, Function.comp_def, Json.text?]
  | _ => cases h

theorem filterMap_text?_of_keysOf {given : Json} {keys : List Json} (h : keysOf given = .ok keys) :
    keys.filterMap Json.text? = givenKeys given := by
  unfold keysOf at h
  split at h
  · cases h
    simp [givenKeys, List.filterMap_map, Function.comp_def, Json.text?]
  · rename_i hobj
    rw [Json.elementsIfPresent] at h
    split at h
    · exact filterMap_text?_of_elements h hobj
    · rename_i habsent
      cases h
      exact (givenKeys_of_absent (eq_false_of_ne_true habsent)).symm

theorem eq_of_sectionFields {fields : Json} {name : String} {map : FieldMap}
    {found : List (String × Field)} (h : sectionFields fields name map = .ok found) :
    found = ((givenKeys ((fields.member? name).getD .null)).filterMap fun key =>
      (lookup? key map).map (key, ·)).map fun (key, f) => (name ++ "." ++ key, f) := by
  obtain ⟨given, hgiven, h⟩ := Returns.of_bind (m := Outcome) h
  obtain ⟨keys, hkeys, h⟩ := Returns.of_bind (m := Outcome) h
  obtain ⟨pairs, hpairs, h⟩ := Returns.of_bind (m := Outcome) h
  cases h
  rw [Json.eq_of_memberOr hgiven, ← filterMap_text?_of_keysOf hkeys, List.filterMap_filterMap,
    Outcome.eq_map_of_mapM (fun _ _ h => (eq_of_fieldOf h).symm) hpairs, List.filterMap_map]
  rfl

theorem eq_of_allFields {data fields : Json} (hfields : data.memberOrNull "fields" = .ok fields)
    {maps : List (String × FieldMap)} {found : List (String × Field)}
    (h : allFields (fields.orDefault Json.noMembers) maps = .ok found) :
    found = selectedKeys data maps := by
  obtain ⟨parts, hparts, h⟩ := Returns.of_bind (m := Outcome) h
  cases h
  rw [selectedKeys, List.flatMap_def]
  refine congrArg List.flatten (Outcome.eq_map_of_mapM ?_ hparts)
  rintro ⟨name, map⟩ part hpart
  rw [eq_of_sectionFields hpart, Json.member?_orDefault, ← Json.eq_of_memberOr hfields,
    Json.member?_getD_null]
  rfl

def orderMember (data : Json) (name : String) : Json :=
  ((data.member? "order").bind (·.member? name)).getD (.str "")

/-- The order of a definition whose legacy order names a field, or the one it had before. -/
def sortingOf (data : Json) (maps : List (String × FieldMap)) (before : Sorting) : Sorting :=
  (sortField? (selectedKeys data maps) (orderMember data "orderBy")).elim before fun f =>
    { selector := .custom, field := f.id, direction := directionOf (orderMember data "type").asText }

variable {data : Json} {maps : List (String × FieldMap)} {d d' : Definition}

theorem fields_of_withFields {room : Nat} (h : withFields room data maps d = .ok d') :
    d'.type = d.type ∧
      d'.fields = d.type.withMandatory ((selectedKeys data maps).map (·.2.id)) ∧
      d'.sorting = sortingOf data maps d.sorting := by
  obtain ⟨fields, hfields, h⟩ := Returns.of_bind (m := Outcome) h
  obtain ⟨order, horder, h⟩ := Returns.of_bind (m := Outcome) h
  obtain ⟨orderBy, horderBy, h⟩ := Returns.of_bind (m := Outcome) h
  obtain ⟨type, htype, h⟩ := Returns.of_bind (m := Outcome) h
  obtain ⟨_, hdirection, h⟩ := Returns.of_bind (m := Outcome) h
  obtain ⟨text, htext, hdirection⟩ := Returns.of_bind (m := Outcome) hdirection
  cases hdirection
  obtain ⟨selected, hselected, h⟩ := Returns.of_bind (m := Outcome) h
  have hmember (name : String) :
      ((order.orDefault Json.noMembers).member? name).getD (.str "") = orderMember data name := by
    rw [Json.member?_orDefault, ← Json.eq_of_memberOr horder, Json.member?_getD_null, orderMember]
  have hname := (Json.eq_of_memberOr horderBy).symm.trans (hmember "orderBy")
  have htype := (Json.eq_of_memberOr htype).symm.trans (hmember "type")
  have htext : text = (orderMember data "type").asText := by
    rw [← (Json.textWithin_eq_ok_iff.mp htext).2, htype]
  rw [eq_of_allFields hfields hselected, hname, htext] at h
  rw [sortingOf]
  cases hfound : sortField? (selectedKeys data maps) (orderMember data "orderBy") with
  | none =>
    simp only [hfound] at h
    cases h
    exact ⟨rfl, rfl, rfl⟩
  | some f =>
    simp only [hfound] at h
    cases h
    exact ⟨rfl, rfl, rfl⟩

/-- What an imported definition takes from the sections and the order of the legacy report. -/
structure Takes (t : ReportType) (data : Json) (maps : List (String × FieldMap))
    (d : Definition) : Prop where
  type : d.type = t
  fields : d.fields = t.withMandatory ((selectedKeys data maps).map (·.2.id))
  sorting : d.sorting = sortingOf data maps { field := t.defaultSort.id }

theorem takes_of_parse {s : Session} {stamp : Stamp} {t : ReportType} {r : Report}
    {platform : String} {rules : List VisibilityRule} {room : Room}
    (h : parse s stamp t r platform rules room = .ok d) :
    ∃ data maps, payload r.data room.reading = .ok data ∧ sections t = .ok maps ∧
      Takes t data maps d := by
  obtain ⟨maps, data, title, description, author, home, timezone, headed, hmaps, hdata, hheaded,
    h⟩ := steps_of_parse h
  obtain ⟨filters, d₁, d₂, d₃, d₄, -, h₁, h₂, h₃, h₄, h⟩ := steps_of_withFilters h
  obtain ⟨_, _, _, _, _, _, rfl⟩ := eq_of_withHead hheaded
  obtain ⟨_, _, _, rfl⟩ := eq_of_withSelections h₁
  obtain ⟨_, _, _, _, rfl⟩ := eq_of_withDates h₂
  obtain ⟨_, rfl⟩ := eq_of_withConditions h₃
  obtain ⟨_, rfl⟩ := eq_of_withStatus h₄
  obtain ⟨htype, hfields, hsorting⟩ := fields_of_withFields h
  have hnew : (Definition.new t s stamp title description author home timezone).type = t ∧
      (Definition.new t s stamp title description author home timezone).sorting =
        { field := t.defaultSort.id } := by
    cases t <;> exact ⟨rfl, rfl⟩
  simp only [hnew.1, hnew.2] at htype hfields hsorting
  exact ⟨data, maps, hdata, hmaps, htype, hfields, hsorting⟩

/-! ## Imported fields -/

/-- The keys of legacy sections stand for fields that the type always shows. -/
theorem alwaysShows_sections : ∀ t ∈ ReportType.all, ∀ maps ∈ (sections t).toOption,
    ∀ section' ∈ maps, ∀ entry ∈ section'.2, t.AlwaysShows entry.2 := by
  decide +kernel

theorem alwaysShows_selectedKeys {t : ReportType} (hmaps : sections t = .ok maps)
    {entry : String × Field} (h : entry ∈ selectedKeys data maps) : t.AlwaysShows entry.2 := by
  obtain ⟨⟨name, map⟩, hmap, hentry⟩ := List.mem_flatMap.mp h
  obtain ⟨⟨key, f⟩, hkey, rfl⟩ := List.mem_map.mp hentry
  obtain ⟨given, -, hfound⟩ := List.mem_filterMap.mp hkey
  obtain ⟨f', hf', hpair⟩ := Option.map_eq_some_iff.mp hfound
  have hmem : maps ∈ (sections t).toOption := by
    rw [hmaps]
    rfl
  cases hpair
  exact alwaysShows_sections t t.mem_all maps hmem (name, map) hmap (key, f) (mem_of_lookup? hf')

/-- The fields of an imported definition: the mandatory ones, then those that its sections select,
each once. Every report that is compiled from it shows them all, the mandatory ones first. -/
structure FieldsImported (t : ReportType) (data : Json) (maps : List (String × FieldMap))
    (d : Definition) : Prop where
  type : d.type = t
  fields : d.fields = t.mandatoryIds
    ++ (((selectedKeys data maps).map (·.2.id)).removeAll t.mandatoryIds).eraseDups
  nodup : d.fields.Nodup
  shown : ∀ text ∈ d.fields, ∃ f, f.id = text ∧ f ∈ t.fields ∧ (t.column? f).isSome = true ∧
    t.gate? f = none
  compiled : ∀ (m : Type → Type) [Monad m] [MonadExceptOf Failure m] [MonadAttach m]
    [LawfulService m] (dir : Directory m) (w : Warehouse) (s : Session) (engine : Sql.Dialect)
    (o : CompileOptions) (r : Compiled), CanReturn (Report.compile dir w d s engine o) r →
      ∃ ctx, Gathered dir w d s o.checkVisibility ctx ∧ ShowsAll ctx r ∧
        t.mandatory.map ctx.fieldLabel <+: r.columns

section

variable {s : Session} {stamp : Stamp} {t : ReportType} {r : Report} {platform : String}
  {rules : List VisibilityRule} {room : Room}

theorem alwaysShows_of_parse (hmaps : sections t = .ok maps) {text : String}
    (h : text ∈ t.withMandatory ((selectedKeys data maps).map (·.2.id))) :
    ∃ f, f.id = text ∧ t.AlwaysShows f := by
  rcases ReportType.mem_withMandatory.mp h with h | h
  · obtain ⟨f, hf, rfl⟩ := List.mem_map.mp h
    exact ⟨f, rfl, ReportType.alwaysShows_mandatory t t.mem_all f hf⟩
  · obtain ⟨entry, hentry, rfl⟩ := List.mem_map.mp h
    exact ⟨entry.2, rfl, alwaysShows_selectedKeys hmaps hentry⟩

/-- The fields of every imported definition can be compiled. -/
theorem parse_selects_shown_fields (h : parse s stamp t r platform rules room = .ok d) :
    ∃ data maps, payload r.data room.reading = .ok data ∧ sections t = .ok maps ∧
      FieldsImported t data maps d := by
  obtain ⟨data, maps, hdata, hmaps, htype, hfields, -⟩ := takes_of_parse h
  have hshown : ∀ text ∈ d.fields, ∃ f, f.id = text ∧ t.AlwaysShows f := by
    rw [hfields]
    exact fun text htext => alwaysShows_of_parse hmaps htext
  refine ⟨data, maps, hdata, hmaps, htype, ?_, ?_, hshown, ?_⟩
  · rw [hfields, ReportType.withMandatory_eq]
  · rw [hfields]
    exact t.nodup_withMandatory _
  · intro m _ _ _ _ dir w caller engine o report hreport
    obtain ⟨-, ctx, -, hctx, rfl⟩ := gathered_of_compile hreport
    have hall : ∀ text ∈ ctx.definition.fields, ∃ f, f.id = text ∧ ctx.type.AlwaysShows f := by
      rw [Context.type, hctx.definition, htype]
      exact hshown
    have hshows := showsAll_of_accounted (accounted_of_gathered hctx engine o) hall
    refine ⟨ctx, hctx, hshows, ?_⟩
    rw [hshows.columns, hctx.definition, hfields, ReportType.withMandatory_eq, List.map_append,
      ReportType.mandatoryIds, List.map_map]
    simp only [Function.comp_def, labelOf_id]
    exact List.prefix_append _ _

end

def onBothShapes : Report :=
  { idFilter := "7", typeId := "20", author := ""
    data := .members [("filters", .obj [("condition_status", .str "and")]),
      ("fields", .obj [
        ("user", .obj [("idst", .bool true), ("email", .bool false), ("userid", .bool true)]),
        ("course", Json.texts ["code", "colour", "name", "code"]),
        ("enrollment", Json.texts ["learningCourseuserSessions.evaluation_score"])]),
      ("order", .obj [
        ("orderBy", .str "enrollment.learningCourseuserSessions.evaluation_score"),
        ("type", .str "DESC")])] }

theorem parse_selects_shown_fields_bothShapes :
    ∃ d r, parse plainUser ⟨"", ""⟩ .classroomSessions onBothShapes "" [] = .ok d ∧
      Report.compile knowing .complete d plainUser .athena {} = .ok r ∧
      ∃ data maps, payload onBothShapes.data = .ok data ∧
        sections .classroomSessions = .ok maps ∧
        FieldsImported .classroomSessions data maps d := by
  obtain ⟨d, r, hd, hr⟩ : ∃ d r,
      parse plainUser ⟨"", ""⟩ .classroomSessions onBothShapes "" [] = .ok d ∧
        Report.compile knowing .complete d plainUser .athena {} = .ok r := ⟨_, _, rfl, rfl⟩
  exact ⟨d, r, hd, hr, parse_selects_shown_fields hd⟩

end Legacy
end LearningReports
