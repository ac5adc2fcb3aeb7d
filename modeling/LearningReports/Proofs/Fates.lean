import LearningReports.Proofs.FieldKeys
import LearningReports.Report.Layout

/-! # Fates of fields

What decides the fate of a selected text: the feature that it depends on, the custom field or the
standard field that it names. No text names both. -/
namespace LearningReports

open CustomField (parse)

theorem parse_of_ofId? {text : String} {f : Field} (h : Field.ofId? text = some f) :
    parse text = .ok none := by
  rw [← Field.id_of_ofId? h]
  exact CustomField.parse_id f

namespace Layout

/-- The column of a resolved field; one whose values are not in the warehouse is empty. -/
def customColumn (ctx : Context) (r : ResolvedField) : Column :=
  if r.isMaterialized then ctx.type.customColumn ctx r else CustomColumns.emptyColumn

/-- Each fate with what it takes. -/
inductive Fated (ctx : Context) (text : String) : Fate → Prop
  | dropped (h : isDropped ctx text = true) : Fated ctx text .dropped
  | custom {c : CustomField} {r : ResolvedField} (hd : isDropped ctx text = false)
      (hc : parse text = .ok (some c)) (hr : lookup? c.key ctx.customFields = some r) :
      Fated ctx text (.column c.key (customColumn ctx r))
  | standard {f : Field} {build : Builder} (hd : isDropped ctx text = false)
      (hf : Field.ofId? text = some f) (hb : ctx.type.column? f = some build) :
      Fated ctx text (.column text (build ctx))
  | unmapped (hd : isDropped ctx text = false)
      (hf : (Field.ofId? text).bind ctx.type.column? = none)
      (hc : ∀ c, parse text = .ok (some c) → lookup? c.key ctx.customFields = none) :
      Fated ctx text .unmapped

theorem fated_standardFate {ctx : Context} {text : String} (hd : isDropped ctx text = false)
    (hp : parse text = .ok none) : Fated ctx text (standardFate ctx text) := by
  unfold standardFate
  cases hb : (Field.ofId? text).bind ctx.type.column? with
  | none =>
    refine .unmapped hd hb fun c hc => ?_
    rw [hp] at hc
    cases hc
  | some build =>
    obtain ⟨f, hf, hbuild⟩ := Option.bind_eq_some_iff.mp hb
    exact .standard hd hf hbuild

theorem fated_customFate {ctx : Context} {text : String} {c : CustomField}
    (hd : isDropped ctx text = false) (hp : parse text = .ok (some c)) :
    Fated ctx text (customFate ctx c) := by
  unfold customFate
  cases hr : lookup? c.key ctx.customFields with
  | none =>
    refine .unmapped hd ?_ fun c' hc' => ?_
    · refine Option.bind_eq_none_iff.mpr fun f hf => ?_
      rw [parse_of_ofId? hf] at hp
      cases hp
    · rw [hp] at hc'
      cases hc'
      exact hr
  | some r => exact .custom hd hp hr

theorem fated (ctx : Context) (text : String) : Fated ctx text (fate ctx text) := by
  unfold fate
  split
  · next h => exact .dropped h
  · next h =>
    have hd : isDropped ctx text = false := Bool.eq_false_iff.mpr h
    split
    · next hp => exact fated_customFate hd hp
    · next hp => exact fated_standardFate hd hp
    · next hp =>
      refine .unmapped hd ?_ fun c hc => ?_
      · refine Option.bind_eq_none_iff.mpr fun f hf => ?_
        rw [parse_of_ofId? hf] at hp
        cases hp
      · rw [hp] at hc
        cases hc

theorem fated_of_mem_columns {ctx : Context} {key : String} {c : Column}
    (h : (key, c) ∈ columns ctx) : ∃ text ∈ ctx.definition.fields,
      Fated ctx text (.column key c) := by
  obtain ⟨⟨text, f⟩, hfate, hcolumn⟩ := List.mem_filterMap.mp h
  obtain ⟨text', htext, heq⟩ := List.mem_map.mp hfate
  cases heq
  refine ⟨text, htext, ?_⟩
  have hfated := fated ctx text
  cases hf : fate ctx text with
  | column key' c' =>
    rw [hf] at hcolumn hfated
    cases hcolumn
    exact hfated
  | dropped =>
    rw [hf] at hcolumn
    cases hcolumn
  | unmapped =>
    rw [hf] at hcolumn
    cases hcolumn

/-- What holds of the columns that the type of a report makes, and of the empty one, holds of every
column of the report. -/
theorem of_mem_columns {ctx : Context} {motive : Column → Prop}
    (hcustom : ∀ r, motive (ctx.type.customColumn ctx r))
    (hempty : motive CustomColumns.emptyColumn)
    (hstandard : ∀ {f build}, ctx.type.column? f = some build → motive (build ctx)) {key : String}
    {c : Column} (h : (key, c) ∈ columns ctx) : motive c := by
  obtain ⟨text, -, hfated⟩ := fated_of_mem_columns h
  cases hfated with
  | custom _ _ _ =>
    unfold customColumn
    split
    · exact hcustom _
    · exact hempty
  | standard _ _ hbuild => exact hstandard hbuild

/-- Contexts that drop the same and make the same columns give a text the same fate. -/
theorem fate_congr {ctx ctx' : Context} {text : String} (htype : ctx'.type = ctx.type)
    (hfields : ctx'.customFields = ctx.customFields)
    (hdropped : isDropped ctx' text = isDropped ctx text)
    (hcustom : ∀ r, ctx.type.customColumn ctx' r = ctx.type.customColumn ctx r)
    (hstandard : ∀ {f build}, ctx.type.column? f = some build → build ctx' = build ctx) :
    fate ctx' text = fate ctx text := by
  have hcustomFate (c : CustomField) : customFate ctx' c = customFate ctx c := by
    unfold customFate
    rw [hfields]
    cases lookup? c.key ctx.customFields with
    | none => rfl
    | some r => simp only [htype, hcustom]
  have hstandardFate : standardFate ctx' text = standardFate ctx text := by
    unfold standardFate
    rw [htype]
    cases hbuild : (Field.ofId? text).bind ctx.type.column? with
    | none => rfl
    | some build =>
      obtain ⟨f, -, hcolumn⟩ := Option.bind_eq_some_iff.mp hbuild
      exact congrArg (Fate.column text) (hstandard hcolumn)
  unfold fate
  simp only [hdropped, hcustomFate, hstandardFate]

end Layout
end LearningReports
