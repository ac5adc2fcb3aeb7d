import LearningReports.Proofs.FieldTexts
import LearningReports.Proofs.IndependentColumns
import LearningReports.Proofs.Resolvable

/-! # Skipped texts

A selected text that is neither a standard field of the type nor a custom field that the directory
knows is skipped. So a report that can be compiled without fields can be compiled with any texts,
as long as its questions about them are answered and no text has too many digits. -/
namespace LearningReports

open MonadAttach (CanReturn)

variable {dir : Directory Outcome} {w : Warehouse} {d : Definition} {s : Session}
  {engine : Sql.Dialect} {o : CompileOptions} {checkVisibility : Bool} {fields : List String}
  {known : Entity → List FieldMetadata}

/-! ## Questions about selected texts -/

/-- The directory tells the custom fields of a type, and the warehouse which of them are stored. -/
structure Tells (dir : Directory Outcome) (w : Warehouse) (t : ReportType)
    (known : Entity → List FieldMetadata) : Prop where
  told : ∀ e ∈ t.entities, dir.customFields e = .ok (known e)
  checked : ∀ c : CustomField, c.entity ∈ t.entities → CustomFields.Knows (known c.entity) c →
    CustomFields.Checked w c

def customField? (t : ReportType) (text : String) : Option CustomField :=
  (CustomFields.parsed? text).filter (·.entity ∈ t.entities)

def namesKnown (t : ReportType) (known : Entity → List FieldMetadata) (text : String) : Bool :=
  (customField? t text).any fun c => (known c.entity).any (·.id == (c.number : Int))

/-- The directory words the standard fields of a definition. The labels can be compared if titles
of custom fields may join them. -/
def Worded (dir : Directory Outcome) (d : Definition) (s : Session) : Prop :=
  ∃ wordings, dir.wordings (Gather.keys d) s.langCode = .ok wordings ∧
    ((∃ text ∈ d.fields, (customField? d.type text).isSome = true) →
      CustomFields.Comparable (Gather.fieldLabels d wordings))

theorem customField?_eq_some_iff {t : ReportType} {text : String} {c : CustomField} :
    customField? t text = some c ↔
      CustomField.parse text = .ok (some c) ∧ c.entity ∈ t.entities := by
  rw [customField?, Option.filter_eq_some_iff, CustomFields.parsed?_eq_some_iff,
    decide_eq_true_eq]

theorem namesKnown_iff {t : ReportType} {text : String} : namesKnown t known text = true ↔
    ∃ c, customField? t text = some c ∧ CustomFields.Knows (known c.entity) c := by
  simp [namesKnown, CustomFields.Knows, Option.any_eq_true]

/-! ## Gathering with any texts -/

theorem Gather.context_withFields_returns_iff
    (h : ∃ ctx, context dir w (d.withFields []) s checkVisibility = .ok ctx) :
    (∃ ctx, context dir w (d.withFields fields) s checkVisibility = .ok ctx) ↔
      ∃ wordings, dir.wordings (keys (d.withFields fields)) s.langCode = .ok wordings ∧
        ∃ custom, CustomFields.resolve dir w fields d.type.entities
          (fieldLabels (d.withFields fields) wordings) = .ok custom := by
  obtain ⟨bare, hbare⟩ := h
  have hothers := context_eq_ok_iff.mp hbare
  constructor
  · rintro ⟨ctx, hctx⟩
    have hanswers := context_eq_ok_iff.mp hctx
    exact ⟨_, hanswers.wordings, _, hanswers.custom⟩
  · rintro ⟨wordings, hwordings, custom, hcustom⟩
    refine ⟨{ bare with
      definition := d.withFields fields, labels := custom.labels, wordings := wordings
      customFields := custom.fields }, context_eq_ok_iff.mpr ?_⟩
    exact ⟨hwordings, hcustom, hothers.filters, hothers.conditions, rfl, hothers.session⟩

theorem Tells.resolve_returns_iff (h : Tells dir w d.type known) {labels : CustomFields.Labels} :
    (∃ custom, CustomFields.resolve dir w fields d.type.entities labels = .ok custom) ↔
      (∀ text ∈ fields, ¬CustomField.IsOversized text) ∧
        ((∃ text ∈ fields, (customField? d.type text).isSome = true) →
          CustomFields.Comparable labels) := by
  rw [CustomFields.resolve_returns_iff]
  refine and_congr (forall₂_congr fun text _ => CustomField.parse_returns_iff) ?_
  constructor
  · rintro hanswer ⟨text, htext, hsome⟩
    obtain ⟨c, hc⟩ := Option.isSome_iff_exists.mp hsome
    obtain ⟨hparse, hentity⟩ := customField?_eq_some_iff.mp hc
    exact (hanswer text htext c hparse hentity).comparable
  · intro hcomparable text htext c hparse hentity
    have hc : customField? d.type text = some c := customField?_eq_some_iff.mpr ⟨hparse, hentity⟩
    exact ⟨hcomparable ⟨text, htext, Option.isSome_iff_exists.mpr ⟨c, hc⟩⟩,
      _, h.told _ hentity, h.checked c hentity⟩

/-! ## Compiling with any texts -/

theorem Tells.isSome_resolved? (h : Tells dir w d.type known) {ctx : Context}
    (hctx : Gathered dir w d s checkVisibility ctx) {text : String} (htext : text ∈ d.fields) :
    (resolved? ctx text).isSome = namesKnown d.type known text := by
  obtain ⟨known', hknown'⟩ := resolvesKnown_of_gathered hctx
  rw [hctx.definition, Context.type, hctx.definition] at hknown'
  have hsame {c : CustomField} (hparse : CustomField.parse text = .ok (some c))
      (hentity : c.entity ∈ d.type.entities) : known' c.entity = known c.entity := by
    have htold := (hknown' text htext c hparse).1 hentity
    exact Except.ok.inj (htold.symm.trans (h.told _ hentity))
  rw [Bool.eq_iff_iff, namesKnown_iff]
  constructor
  · intro hsome
    cases hparsed : CustomFields.parsed? text with
    | none =>
      rw [resolved?_eq, hparsed] at hsome
      cases hsome
    | some c =>
      have hparse := CustomFields.parsed?_eq_some_iff.mp hparsed
      obtain ⟨hentity, hknows⟩ := (hknown' text htext c hparse).2.mp hsome
      exact ⟨c, customField?_eq_some_iff.mpr ⟨hparse, hentity⟩, hsame hparse hentity ▸ hknows⟩
  · rintro ⟨c, hc, hknows⟩
    obtain ⟨hparse, hentity⟩ := customField?_eq_some_iff.mp hc
    exact (hknown' text htext c hparse).2.mpr ⟨hentity, (hsame hparse hentity).symm ▸ hknows⟩

/-- What becomes of the selected texts of a compiled report: each is a column, is dropped or is
skipped, and it is skipped when it is neither a standard field nor a custom field that is known. -/
structure Skips (t : ReportType) (known : Entity → List FieldMetadata) (fields : List String)
    (r : Compiled) : Prop where
  unmapped : r.unmapped = fields.filter fun text => !(isStandard t text || namesKnown t known text)
  counted : r.columns.length + r.dropped.length + r.unmapped.length = fields.length

theorem Tells.skips (h : Tells dir w d.type known) {ctx : Context}
    (hctx : Gathered dir w d s checkVisibility ctx) :
    Skips d.type known d.fields (Report.compiled ctx engine o) := by
  have haccounted := accounted_of_gathered hctx engine o
  have hfields : ctx.definition.fields = d.fields := congrArg Definition.fields hctx.definition
  have htype : ctx.type = d.type := congrArg Definition.type hctx.definition
  constructor
  · rw [haccounted.unmapped, fieldsOf, hfields]
    refine List.filter_congr fun text htext => ?_
    rw [Bool.eq_iff_iff, decide_eq_true_eq, classOf_eq_unmapped_iff, htype,
      h.isSome_resolved? hctx htext]
    simp
  · rw [haccounted.columns, haccounted.dropped, haccounted.unmapped, List.length_map, ← hfields,
      ← haccounted.counted]
    omega

/-- A report that can be compiled without fields can be compiled with any texts that do not have too
many digits, as long as their labels are worded. -/
theorem compile_withFields_returns_iff
    (hbare : ∃ r, Report.compile dir w (d.withFields []) s engine o = .ok r)
    (htells : Tells dir w d.type known) (fields : List String) :
    ((∃ r, Report.compile dir w (d.withFields fields) s engine o = .ok r) ↔
      (∀ text ∈ fields, ¬CustomField.IsOversized text) ∧ Worded dir (d.withFields fields) s) ∧
    ∀ r, Report.compile dir w (d.withFields fields) s engine o = .ok r →
      Skips d.type known fields r := by
  obtain ⟨bare, hbare⟩ := hbare
  obtain ⟨hengine, ctx₀, hctx₀, -⟩ := compile_eq_ok_iff.mp hbare
  constructor
  · have hcontext : (∃ r, Report.compile dir w (d.withFields fields) s engine o = .ok r) ↔
        ∃ ctx, Gather.context dir w (d.withFields fields) s o.checkVisibility = .ok ctx := by
      simp only [compile_eq_ok_iff]
      constructor
      · rintro ⟨r, -, ctx, hctx, -⟩
        exact ⟨ctx, hctx⟩
      · rintro ⟨ctx, hctx⟩
        exact ⟨_, hengine, ctx, hctx, rfl⟩
    rw [hcontext, Gather.context_withFields_returns_iff ⟨ctx₀, hctx₀⟩]
    simp only [htells.resolve_returns_iff]
    constructor
    · rintro ⟨wordings, hwordings, hshort, hcomparable⟩
      exact ⟨hshort, wordings, hwordings, hcomparable⟩
    · rintro ⟨hshort, wordings, hwordings, hcomparable⟩
      exact ⟨wordings, hwordings, hshort, hcomparable⟩
  · intro r hr
    obtain ⟨-, ctx, hctx, rfl⟩ := compile_eq_ok_iff.mp hr
    have hreturn : CanReturn
        (Gather.context dir w (d.withFields fields) s o.checkVisibility) ctx := hctx
    have htells' : Tells dir w (d.withFields fields).type known := htells
    exact htells'.skips (gathered_of_context hreturn)

/-- A selection that cannot be read is the failure of the compilation. -/
theorem compile_eq_error {f : Failure} {wordings : List (String × Json)}
    (hengine : Report.checkEngine d.type engine = .ok ())
    (hwordings : dir.wordings (Gather.keys d) s.langCode = .ok wordings)
    (h : CustomFields.selected d.fields = .error f) :
    Report.compile dir w d s engine o = .error f := by
  have hresolve {labels : CustomFields.Labels} :
      CustomFields.resolve dir w d.fields d.type.entities labels = .error f := by
    rw [CustomFields.resolve, h]
    rfl
  have hcontext : Gather.context dir w d s o.checkVisibility = .error f := by
    rw [Gather.context, hwordings]
    change (CustomFields.resolve dir w d.fields d.type.entities _ >>= _) = _
    rw [hresolve]
    rfl
  rw [Report.compile, hengine, hcontext]
  rfl

theorem tells_knowing (t : ReportType) : Tells knowing .complete t knownOffice where
  told e _ := by cases e <;> rfl
  checked c _ _ := ⟨true, CustomField.isMaterialized_complete c⟩

theorem wordings_knowing (keys : List String) (language : Json) :
    knowing.wordings keys language = .ok [] := by
  have hnone : (keys.filterMap fun _ => (none : Option (String × Json))) = [] :=
    List.filterMap_eq_nil_iff.mpr fun _ _ => rfl
  exact congrArg Except.ok hnone

theorem worded_knowing (d : Definition) (s : Session) : Worded knowing d s := by
  refine ⟨[], wordings_knowing _ _, fun _ p hp => ?_⟩
  obtain ⟨f, -, rfl⟩ := List.mem_map.mp hp
  rfl

theorem compile_bare : ∃ r, Report.compile knowing .complete (onFourFields.withFields []) plainUser
    .athena {} = .ok r := ⟨_, rfl⟩

def oddTexts : List String :=
  ["user_userid", "user_extrafield_03", "user_extrafield_٣", "user_extrafield_4", "shoe_size"]

theorem compile_withFields_returns_iff_odd :
    ∃ r, Report.compile knowing .complete (onFourFields.withFields oddTexts) plainUser .athena {} =
        .ok r ∧
      Skips .usersCourses knownOffice oddTexts r ∧
      r.unmapped = ["user_extrafield_4", "shoe_size"] := by
  obtain ⟨hreturns, hskips⟩ :=
    compile_withFields_returns_iff compile_bare (tells_knowing .usersCourses) oddTexts
  obtain ⟨cs, hcs⟩ : ∃ cs, CustomFields.selected oddTexts = .ok cs := ⟨_, rfl⟩
  have hshort : ∀ text ∈ oddTexts, ¬CustomField.IsOversized text := fun text htext =>
    CustomField.parse_returns_iff.mp ⟨_, (CustomFields.selected_eq_ok_iff.mp hcs).1 text htext⟩
  obtain ⟨r, hr⟩ := hreturns.mpr ⟨hshort, worded_knowing _ _⟩
  have hskipped := hskips r hr
  refine ⟨r, hr, hskipped, hskipped.unmapped.trans ?_⟩
  decide +kernel

def longText : String :=
  CustomField.keyStart .user ++ String.ofList (List.replicate (Number.digitLimit + 1) '1')

theorem writes_longText :
    CustomField.Writes longText .user (List.replicate (Number.digitLimit + 1) '1') where
  spelled := ⟨[], .inl rfl, by simp [longText]⟩
  nonempty := by simp
  decimal c hc := (List.eq_of_mem_replicate hc).symm ▸ (by decide)

/-- A report that can be compiled without fields, with a directory that tells all custom fields,
cannot be compiled with a text of too many digits. -/
theorem compile_longText_fails :
    (∃ r, Report.compile knowing .complete (onFourFields.withFields []) plainUser .athena {} =
      .ok r) ∧
    Tells knowing .complete .usersCourses knownOffice ∧
    Report.compile knowing .complete (onFourFields.withFields [longText]) plainUser .athena {} =
      .error (.oversizedInteger 4301) := by
  refine ⟨compile_bare, tells_knowing _, ?_⟩
  have hparse : CustomField.parse longText = .error (.oversizedInteger 4301) := by
    rw [writes_longText.parse_eq, List.length_replicate]
    exact if_pos (Nat.lt_succ_self _)
  have hselected : CustomFields.selected [longText] = .error (.oversizedInteger 4301) := by
    rw [CustomFields.selected, List.mapM_cons, hparse]
    rfl
  exact compile_eq_error rfl (wordings_knowing _ _) hselected

end LearningReports
