import LearningReports.Directory.Records
import LearningReports.Proofs.FirstOccurrences
import LearningReports.Proofs.Gathered
import LearningReports.Proofs.ReorderedLabels
import Mathlib.Data.List.Nodup

/-! # Contexts of fewer fields

A report that can be gathered can be gathered for any part of its fields. Columns see no difference,
as long as the directory words each key by itself. -/
namespace LearningReports

/-! ## Directories and definitions -/

/-- The directory gives a key the same wording whichever keys are asked for with it. -/
def Directory.WordsByKey (dir : Directory Outcome) : Prop :=
  ∀ keys language wordings, dir.wordings keys language = .ok wordings → ∀ keys' ⊆ keys,
    ∃ wordings', dir.wordings keys' language = .ok wordings' ∧
      ∀ key ∈ keys', lookup? key wordings' = lookup? key wordings

theorem lookup?_filterMap_keys {α : Type} (key : String) (keys : List String)
    (found : String → Option α) :
    lookup? key (keys.filterMap fun key => (found key).map fun v => (key, v)) =
      if key ∈ keys then found key else none := by
  induction keys with
  | nil => rfl
  | cons k ks ih =>
    rw [List.filterMap_cons]
    by_cases heq : k = key
    · subst heq
      cases hk : found k with
      | none => simp [ih, hk]
      | some v => simp [lookup?]
    · cases hk : found k with
      | none => simp [ih, Ne.symm heq]
      | some v => simp [lookup?, ih, heq, Ne.symm heq]

theorem Records.wordsByKey (r : Records) : r.directory.WordsByKey := by
  intro keys language wordings h keys' hsub
  change r.answer .wordings _ = .ok wordings at h
  change ∃ wordings', r.answer .wordings _ = .ok wordings' ∧ _
  unfold answer at h ⊢
  split at h
  · cases h
  · cases h
    refine ⟨_, rfl, fun key hkey => ?_⟩
    rw [lookup?_filterMap_keys, lookup?_filterMap_keys, if_pos hkey, if_pos (hsub hkey)]

def Definition.withFields (d : Definition) (fields : List String) : Definition :=
  { d with fields := fields }

/-! ## Gathering for fewer fields -/

namespace Gather

theorem mem_insertText {s t : String} {ts : List String} :
    s ∈ insertText t ts ↔ s = t ∨ s ∈ ts := by
  induction ts with
  | nil => simp [insertText]
  | cons u us ih =>
    unfold insertText
    split
    · simp
    · split
      · next heq => simp [heq]
      · rw [List.mem_cons, ih, List.mem_cons, or_left_comm]

theorem mem_sortedTexts {s : String} {ss : List String} : s ∈ sortedTexts ss ↔ s ∈ ss := by
  induction ss with
  | nil => rfl
  | cons t ts ih =>
    change s ∈ insertText t (sortedTexts ts) ↔ _
    rw [mem_insertText, ih, List.mem_cons]

theorem mem_keys {d : Definition} {key : String} : key ∈ keys d ↔
    (∃ f ∈ standardFields d, f.labelKey = key) ∨ ∃ w ∈ Wording.all, w.labelKey = key := by
  rw [keys, mem_sortedTexts, List.mem_append, List.mem_map, List.mem_map]

theorem mem_standardFields {d : Definition} {f : Field} :
    f ∈ standardFields d ↔ ∃ text ∈ d.fields, Field.ofId? text = some f := by
  rw [standardFields, List.mem_eraseDups, List.mem_filterMap]

variable {dir : Directory Outcome} {w : Warehouse} {d : Definition} {s : Session}
  {checkVisibility : Bool} {ctx : Context} {fields : List String}

/-- The conditions on custom fields of the users, where the type restricts users. -/
def conditions (dir : Directory Outcome) (d : Definition) : Outcome (List (Int × Int)) :=
  if .users ∈ d.type.filterKinds then Selection.userConditions dir d else .ok []

/-- A gathered context with the answers that it was made from. -/
structure Answers (dir : Directory Outcome) (w : Warehouse) (d : Definition) (s : Session)
    (checkVisibility : Bool) (ctx : Context) : Prop where
  wordings : dir.wordings (keys d) s.langCode = .ok ctx.wordings
  custom : CustomFields.resolve dir w d.fields d.type.entities (fieldLabels d ctx.wordings) =
    .ok { fields := ctx.customFields, labels := ctx.labels }
  filters : filters dir d s checkVisibility = .ok ctx.filters
  conditions : conditions dir d = .ok ctx.userConditions
  definition : ctx.definition = d
  session : ctx.session = s

theorem context_eq_ok_iff :
    context dir w d s checkVisibility = .ok ctx ↔ Answers dir w d s checkVisibility ctx := by
  have hcontext : context dir w d s checkVisibility = (do
      let wordings ← dir.wordings (keys d) s.langCode
      let custom ← CustomFields.resolve dir w d.fields d.type.entities (fieldLabels d wordings)
      let filters ← filters dir d s checkVisibility
      let conditions ← conditions dir d
      return { definition := d, session := s, labels := custom.labels, wordings := wordings
               filters := filters, customFields := custom.fields
               userConditions := conditions }) := by
    unfold context Gather.conditions
    refine bind_congr fun wordings => bind_congr fun custom => bind_congr fun filters => ?_
    split <;> rfl
  rw [hcontext]
  simp only [Outcome.bind_eq_ok_iff]
  constructor
  · rintro ⟨wordings, hwordings, custom, hcustom, filters, hfilters, conditions, hconditions, hctx⟩
    cases hctx
    exact ⟨hwordings, hcustom, hfilters, hconditions, rfl, rfl⟩
  · rintro ⟨hwordings, hcustom, hfilters, hconditions, rfl, rfl⟩
    exact ⟨_, hwordings, _, hcustom, _, hfilters, _, hconditions, rfl⟩

/-! ## Fewer fields -/

theorem standardFields_subset (h : fields ⊆ d.fields) :
    standardFields (d.withFields fields) ⊆ standardFields d := fun f hf => by
  obtain ⟨text, htext, hid⟩ := mem_standardFields.mp hf
  exact mem_standardFields.mpr ⟨text, h htext, hid⟩

theorem keys_subset (h : fields ⊆ d.fields) : keys (d.withFields fields) ⊆ keys d := by
  intro key hkey
  refine mem_keys.mpr ((mem_keys.mp hkey).imp_left ?_)
  exact fun ⟨f, hf, heq⟩ => ⟨f, standardFields_subset h hf, heq⟩

theorem labelKey_mem_keys {f : Field} (h : f ∈ standardFields d) : f.labelKey ∈ keys d :=
  mem_keys.mpr (.inl ⟨f, h, rfl⟩)

theorem comparable_fieldLabels {wordings wordings' : List (String × Json)}
    (h : fields ⊆ d.fields)
    (hsame : ∀ key ∈ keys (d.withFields fields), lookup? key wordings' = lookup? key wordings)
    (hlabels : CustomFields.Comparable (fieldLabels d wordings)) :
    CustomFields.Comparable (fieldLabels (d.withFields fields) wordings') := by
  intro p hp
  obtain ⟨f, hf, rfl⟩ := List.mem_map.mp hp
  dsimp only
  rw [hsame _ (labelKey_mem_keys hf)]
  exact hlabels _ (List.mem_map_of_mem (standardFields_subset h hf))

end Gather

/-- The context of a report on some of the fields: it looks the same to columns, and the custom
fields among the fields that are left are resolved alike. -/
structure Context.Narrows (fields : List String) (ctx ctx' : Context) : Prop where
  selects : ctx'.definition.fields = fields
  view : ctx'.view = ctx.view
  resolved : ∀ text ∈ fields, (resolved? ctx' text).map ResolvedField.untitled =
    (resolved? ctx text).map ResolvedField.untitled

theorem resolved?_eq (ctx : Context) (text : String) : resolved? ctx text =
    (CustomFields.parsed? text).bind fun c => lookup? c.key ctx.customFields := by
  unfold resolved? CustomFields.parsed?
  cases CustomField.parse text with
  | error e => rfl
  | ok c =>
    cases c with
    | _ => rfl

section Narrowed

variable {dir : Directory Outcome} {w : Warehouse} {d : Definition} {s : Session}
  {checkVisibility : Bool} {ctx ctx' : Context} {fields : List String}

/-- A report that can be gathered can be gathered for any part of its fields. -/
theorem Gather.context_of_subset (hdir : dir.WordsByKey)
    (h : context dir w d s checkVisibility = .ok ctx) (hsub : fields ⊆ d.fields) :
    ∃ ctx', context dir w (d.withFields fields) s checkVisibility = .ok ctx' ∧
      ctx.Narrows fields ctx' := by
  have hanswers := context_eq_ok_iff.mp h
  obtain ⟨wordings, hwordings, hsame⟩ :=
    hdir _ _ _ hanswers.wordings (keys (d.withFields fields)) (keys_subset hsub)
  obtain ⟨custom, hcustom, hresolved⟩ := CustomFields.resolve_of_subset hanswers.custom hsub
    (comparable_fieldLabels (d := d) hsub hsame)
  refine ⟨{ ctx with
    definition := d.withFields fields, labels := custom.labels, wordings := wordings
    customFields := custom.fields }, context_eq_ok_iff.mpr ?_, rfl, ?_, fun text htext => ?_⟩
  · exact ⟨hwordings, hcustom, hanswers.filters, hanswers.conditions, rfl, hanswers.session⟩
  · have hwords : (Wording.all.map fun w =>
          (w.labelKey, (lookup? w.labelKey wordings).getD (.str w.labelKey))) =
        Wording.all.map fun w =>
          (w.labelKey, (lookup? w.labelKey ctx.wordings).getD (.str w.labelKey)) :=
      List.map_congr_left fun w hw => by rw [hsame _ (mem_keys.mpr (.inr ⟨w, hw, rfl⟩))]
    unfold Context.view
    dsimp only
    rw [hwords, hanswers.definition]
    rfl
  · rw [resolved?_eq, resolved?_eq]
    cases hparsed : CustomFields.parsed? text with
    | none => rfl
    | some c => exact hresolved c (List.mem_filterMap.mpr ⟨text, htext, hparsed⟩)

namespace Context.Narrows

variable (h : ctx.Narrows fields ctx') {text : String} (htext : text ∈ fields)
include h htext

theorem classOf_eq : classOf ctx' text = classOf ctx text :=
  classOf_eq_of_view h.view (h.resolved text htext)

theorem columnOf_eq : columnOf ctx' text = columnOf ctx text :=
  columnOf_eq_of_view h.view (h.resolved text htext)

end Context.Narrows

end Narrowed

/-! ## Reordered fields -/

theorem Gather.nodup_fieldLabels (d : Definition) (wordings : List (String × Json)) :
    ((fieldLabels d wordings).map Prod.fst).Nodup := by
  have hids : (fieldLabels d wordings).map Prod.fst = (standardFields d).map Field.id := by
    rw [fieldLabels, List.map_map]
    rfl
  rw [hids]
  refine List.Nodup.map_on (fun f hf f' hf' heq => ?_) (nodup_eraseDups _)
  have hid := ofId?_of_mem_standardFields hf
  rw [heq, ofId?_of_mem_standardFields hf'] at hid
  exact (Option.some.inj hid).symm

theorem Gather.agree_fieldLabels {d : Definition} {fields : List String}
    {wordings wordings' : List (String × Json)} (hfields : ∀ text, text ∈ fields ↔ text ∈ d.fields)
    (hsame : ∀ key ∈ keys (d.withFields fields), lookup? key wordings' = lookup? key wordings) :
    CustomFields.Agree (fieldLabels d wordings) (fieldLabels (d.withFields fields) wordings') where
  distinct := nodup_fieldLabels ..
  distinct' := nodup_fieldLabels ..
  same key := by
    have hmem (f : Field) : f ∈ standardFields (d.withFields fields) ↔ f ∈ standardFields d := by
      simp only [mem_standardFields]
      exact exists_congr fun text => and_congr_left fun _ => hfields text
    by_cases h : ∃ f ∈ standardFields d, f.id = key
    · obtain ⟨f, hf, rfl⟩ := h
      have hf' := (hmem f).mpr hf
      rw [fieldLabels, lookup?_map_id hf' fun f' => ofId?_of_mem_standardFields, fieldLabels,
        lookup?_map_id hf fun f' => ofId?_of_mem_standardFields, hsame _ (labelKey_mem_keys hf')]
    · have hnone {d' : Definition} {ws : List (String × Json)}
          (hsub : ∀ f, f ∈ standardFields d' → f ∈ standardFields d) :
          lookup? key (fieldLabels d' ws) = none := by
        cases hlookup : lookup? key (fieldLabels d' ws) with
        | none => rfl
        | some v =>
          obtain ⟨f, hf, heq⟩ := List.mem_map.mp (mem_of_lookup? hlookup)
          cases heq
          exact absurd ⟨f, hsub f hf, rfl⟩ h
      rw [hnone fun f => (hmem f).mp, hnone fun _ => id]

theorem Gather.label_eq {dir : Directory Outcome} {w : Warehouse} {d : Definition} {s : Session}
    {checkVisibility : Bool} {ctx ctx' : Context} {fields : List String} (hdir : dir.WordsByKey)
    (h : context dir w d s checkVisibility = .ok ctx)
    (hfields : ∀ text, text ∈ fields ↔ text ∈ d.fields)
    (h' : context dir w (d.withFields fields) s checkVisibility = .ok ctx') (key : String) :
    ctx'.label key = ctx.label key := by
  have hanswers := context_eq_ok_iff.mp h
  have hanswers' := context_eq_ok_iff.mp h'
  obtain ⟨wordings, hwordings, hsame⟩ := hdir _ _ _ hanswers.wordings _
    (keys_subset fun text => (hfields text).mp)
  cases Except.ok.inj (hanswers'.wordings.symm.trans hwordings)
  have hagree := CustomFields.agree_resolve hfields hanswers.custom hanswers'.custom
    (agree_fieldLabels hfields hsame)
  rw [Context.label, Context.label, hagree.same]

end LearningReports
