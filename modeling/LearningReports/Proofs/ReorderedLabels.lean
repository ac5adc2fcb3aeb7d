import LearningReports.Proofs.NamedQueries
import LearningReports.Proofs.NarrowedResolution

/-! # Labels of reordered selections

Labels are found by their keys, and a title gives way to the set of the texts in use. So the order
of the selected fields decides on no label. -/
namespace LearningReports

/-! ## Pairs found by key -/

theorem keys_bindKey {α : Type} (key : String) (value : α) (pairs : List (String × α)) :
    (bindKey key value pairs).map Prod.fst =
      if key ∈ pairs.map Prod.fst then pairs.map Prod.fst else pairs.map Prod.fst ++ [key] := by
  induction pairs with
  | nil => rfl
  | cons p rest ih =>
    unfold bindKey
    by_cases h : p.1 = key
    · simp [h]
    · rw [if_neg h, List.map_cons, ih]
      by_cases hmem : key ∈ rest.map Prod.fst
      · simp [hmem]
      · have hnot : key ∉ p.1 :: rest.map Prod.fst := by
          simpa [hmem] using Ne.symm h
        rw [if_neg hmem, List.map_cons, if_neg hnot, List.cons_append]

theorem lookup?_of_mem {α : Type} {pairs : List (String × α)} (h : (pairs.map Prod.fst).Nodup)
    {p : String × α} (hp : p ∈ pairs) : lookup? p.1 pairs = some p.2 := by
  induction pairs with
  | nil => cases hp
  | cons q rest ih =>
    rw [List.map_cons, List.nodup_cons] at h
    rcases List.mem_cons.mp hp with rfl | hp
    · simp [lookup?]
    · have hne : q.1 ≠ p.1 := fun heq => h.1 (heq ▸ List.mem_map_of_mem hp)
      rw [lookup?, if_neg hne]
      exact ih h.2 hp

namespace CustomFields

/-- Both have each key once, and the same under each key. -/
structure Agree (labels labels' : Labels) : Prop where
  distinct : (labels.map Prod.fst).Nodup
  distinct' : (labels'.map Prod.fst).Nodup
  same : ∀ key, lookup? key labels' = lookup? key labels

variable {labels labels' : Labels}

theorem nodup_keys_bindKey {α : Type} {pairs : List (String × α)} (key : String) (value : α)
    (h : (pairs.map Prod.fst).Nodup) : ((bindKey key value pairs).map Prod.fst).Nodup := by
  rw [keys_bindKey]
  split
  · exact h
  · next hnew =>
    exact List.nodup_append.mpr ⟨h, List.pairwise_singleton _ _, fun a ha b hb heq =>
      hnew (List.mem_singleton.mp hb ▸ heq ▸ ha)⟩

theorem Agree.bindKey (h : Agree labels labels') (key : String) (v : Json) :
    Agree (bindKey key v labels) (LearningReports.bindKey key v labels') where
  distinct := nodup_keys_bindKey key v h.distinct
  distinct' := nodup_keys_bindKey key v h.distinct'
  same other := by
    by_cases hkey : other = key
    · rw [hkey, lookup?_bindKey_self, lookup?_bindKey_self]
    · rw [lookup?_bindKey_ne hkey, lookup?_bindKey_ne hkey, h.same]

/-! ## Titles -/

theorem mem_usedTexts (h : (labels.map Prod.fst).Nodup) {text : String} :
    text ∈ usedTexts labels ↔ ∃ key, lookup? key labels = some (.str text) := by
  rw [mem_usedTexts_iff, List.mem_map]
  constructor
  · rintro ⟨⟨key, v⟩, hp, rfl⟩
    exact ⟨key, lookup?_of_mem h hp⟩
  · rintro ⟨key, hkey⟩
    exact ⟨_, mem_of_lookup? hkey, rfl⟩

structure Labelling.Agree (l l' : Labelling) : Prop where
  labels : CustomFields.Agree l.labels l'.labels
  used : ∀ text, text ∈ l'.used ↔ text ∈ l.used

theorem Labelling.Agree.add {l l' : Labelling} (h : l.Agree l') (e : Entity) (f : FieldMetadata) :
    (l.add e f).Agree (l'.add e f) := by
  have hlabel : labelFor e l'.used f.title = labelFor e l.used f.title := by
    have hused : isUsed l'.used f.title = isUsed l.used f.title := by
      rw [isUsed, isUsed, Bool.eq_iff_iff, List.contains_iff_mem, List.contains_iff_mem, h.used]
    rw [labelFor, labelFor, hused]
  constructor
  · change CustomFields.Agree (bindKey _ _ l.labels)
      (bindKey _ (.str (labelFor e l'.used f.title)) l'.labels)
    rw [hlabel]
    exact h.labels.bindKey _ _
  · intro text
    change text ∈ labelFor e l'.used f.title :: l'.used ↔ _
    rw [hlabel, List.mem_cons, h.used, ← List.mem_cons]
    rfl

theorem Agree.addTitles (h : Agree labels labels') (e : Entity) (known : List FieldMetadata) :
    Agree (addTitles e known labels) (CustomFields.addTitles e known labels') := by
  have hfold {l l' : Labelling} (hl : l.Agree l') :
      (known.foldl (Labelling.add e) l).Agree (known.foldl (Labelling.add e) l') := by
    induction known generalizing l l' with
    | nil => exact hl
    | cons f fs ih => exact ih (hl.add e f)
  refine (hfold ⟨h, fun text => ?_⟩).labels
  rw [mem_usedTexts h.distinct, mem_usedTexts h.distinct']
  simp only [h.same]

/-! ## Whole resolutions -/

variable {dir : Directory Outcome} {w : Warehouse}

theorem agree_resolveEntities {fields fields' : List CustomField}
    (hfields : ∀ c, c ∈ fields' ↔ c ∈ fields) (entities : List Entity)
    {r r' last last' : Resolution} (h : resolveEntities dir w fields entities r = .ok last)
    (h' : resolveEntities dir w fields' entities r' = .ok last')
    (hr : Agree r.labels r'.labels) : Agree last.labels last'.labels := by
  induction entities generalizing r r' with
  | nil =>
    cases h
    cases h'
    exact hr
  | cons e es ih =>
    rw [resolveEntities_cons_eq_ok_iff] at h h'
    rcases h with ⟨hnone, h⟩ | ⟨⟨c, hc, he⟩, known, next, hknown, hnext, h⟩
    · rcases h' with ⟨-, h'⟩ | ⟨⟨c, hc, he⟩, -⟩
      · exact ih h h' hr
      · exact absurd he (hnone c ((hfields c).mp hc))
    · rcases h' with ⟨hnone, -⟩ | ⟨-, known', next', hknown', hnext', h'⟩
      · exact absurd he (hnone c ((hfields c).mpr hc))
      · cases Except.ok.inj (hknown.symm.trans hknown')
        obtain ⟨-, -, hlabels⟩ := resolveEntity_eq_ok_iff.mp hnext
        obtain ⟨-, -, hlabels'⟩ := resolveEntity_eq_ok_iff.mp hnext'
        refine ih h h' ?_
        rw [hlabels, hlabels']
        exact hr.addTitles e known

theorem agree_resolve {texts texts' : List String} (htexts : ∀ text, text ∈ texts' ↔ text ∈ texts)
    {entities : List Entity} {r r' : Resolution}
    (h : resolve dir w texts entities labels = .ok r)
    (h' : resolve dir w texts' entities labels' = .ok r') (hlabels : Agree labels labels') :
    Agree r.labels r'.labels := by
  obtain ⟨fields, hfields, h⟩ := Returns.of_bind (m := Outcome) h
  obtain ⟨fields', hfields', h'⟩ := Returns.of_bind (m := Outcome) h'
  obtain ⟨-, rfl⟩ := selected_eq_ok_iff.mp (Returns.of_lift (m := Outcome) hfields)
  obtain ⟨-, rfl⟩ := selected_eq_ok_iff.mp (Returns.of_lift (m := Outcome) hfields')
  refine agree_resolveEntities (fun c => ?_) entities h h' hlabels
  simp only [List.mem_filterMap, htexts]

end CustomFields
end LearningReports
