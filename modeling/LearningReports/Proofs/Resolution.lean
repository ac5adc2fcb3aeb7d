import LearningReports.CustomFields.Resolve
import LearningReports.Proofs.FieldKeys
import LearningReports.Proofs.Returns
import Mathlib.Data.List.Induction

/-! # Resolution of custom fields

A selected custom field is resolved when its entity is one of those asked for and the directory
knows its number, and not otherwise. It stands under its key, with the label of the key as its title
and the type of the directory's last entry for its number. Labels under other keys stay as they
were. -/
namespace LearningReports.CustomFields

open MonadAttach (CanReturn)

/-! ## Selected texts -/

def parsed? (text : String) : Option CustomField :=
  match CustomField.parse text with
  | .ok c => c
  | .error _ => none

theorem parse_eq_ok_iff {text : String} {c : Option CustomField} :
    CustomField.parse text = .ok c ↔
      CustomField.parse text = .ok (parsed? text) ∧ parsed? text = c := by
  constructor
  · intro h
    have hparsed : parsed? text = c := by rw [parsed?, h]
    exact ⟨hparsed ▸ h, hparsed⟩
  · rintro ⟨h, rfl⟩
    exact h

theorem mapM_parse_eq_ok_iff {texts : List String} {cs : List (Option CustomField)} :
    texts.mapM CustomField.parse = .ok cs ↔
      (∀ text ∈ texts, CustomField.parse text = .ok (parsed? text)) ∧ texts.map parsed? = cs := by
  rw [Outcome.mapM_eq_ok_iff, ← List.forall₂_eq_eq_eq, List.forall₂_map_left_iff,
    ← List.forall₂_and_left]
  simp only [← parse_eq_ok_iff]

theorem selected_eq_ok_iff {texts : List String} {fields : List CustomField} :
    selected texts = .ok fields ↔ (∀ text ∈ texts, CustomField.parse text = .ok (parsed? text)) ∧
      fields = texts.filterMap parsed? := by
  constructor
  · intro h
    obtain ⟨cs, hcs, h⟩ := Returns.of_bind (m := Outcome) h
    cases h
    obtain ⟨hparse, rfl⟩ := mapM_parse_eq_ok_iff.mp hcs
    exact ⟨hparse, List.filterMap_map⟩
  · rintro ⟨hparse, rfl⟩
    rw [selected, mapM_parse_eq_ok_iff.mpr ⟨hparse, rfl⟩]
    exact congrArg Except.ok List.filterMap_map

theorem parsed?_eq_some_iff {text : String} {c : CustomField} :
    parsed? text = some c ↔ CustomField.parse text = .ok (some c) := by
  unfold parsed?
  cases CustomField.parse text <;> simp

theorem mem_filterMap_parsed? {texts : List String} {c : CustomField} :
    c ∈ texts.filterMap parsed? ↔ ∃ text ∈ texts, CustomField.parse text = .ok (some c) := by
  simp only [List.mem_filterMap, parsed?_eq_some_iff]

theorem mem_selected {texts : List String} {fields : List CustomField}
    (h : selected texts = .ok fields) {text : String} {c : CustomField} (htext : text ∈ texts)
    (hc : CustomField.parse text = .ok (some c)) : c ∈ fields := by
  rw [(selected_eq_ok_iff.mp h).2]
  exact mem_filterMap_parsed?.mpr ⟨text, htext, hc⟩

/-! ## Labels of one entity -/

theorem isSome_lookup?_bindKey {α : Type} {key other : String} {value : α}
    {pairs : List (String × α)} (h : (lookup? other pairs).isSome = true) :
    (lookup? other (bindKey key value pairs)).isSome = true := by
  by_cases hkey : other = key
  · rw [hkey, lookup?_bindKey_self]
    rfl
  · rw [lookup?_bindKey_ne hkey]
    exact h

theorem mem_usedTexts_iff {labels : Labels} {text : String} :
    text ∈ usedTexts labels ↔ .str text ∈ labels.map Prod.snd := by
  have htext (v : Json) : v.text? = some text ↔ v = .str text := by
    cases v <;> simp [Json.text?]
  simp only [usedTexts, List.mem_filterMap, List.mem_map, htext]

theorem lookup?_foldl_add_of_ne {e : Entity} {key : String} (fields : List FieldMetadata)
    (l : Labelling) (h : ∀ n, key ≠ CustomField.keyOf e n) :
    lookup? key (fields.foldl (Labelling.add e) l).labels = lookup? key l.labels := by
  induction fields generalizing l with
  | nil => rfl
  | cons f fs ih =>
    rw [List.foldl_cons, ih]
    exact lookup?_bindKey_ne (h f.id) ..

theorem isSome_lookup?_foldl_add {e : Entity} {key : String} (fields : List FieldMetadata)
    (l : Labelling) (h : (lookup? key l.labels).isSome = true) :
    (lookup? key (fields.foldl (Labelling.add e) l).labels).isSome = true := by
  induction fields generalizing l with
  | nil => exact h
  | cons f fs ih => exact ih _ (isSome_lookup?_bindKey h)

theorem lookup?_addTitles_of_ne {e : Entity} {fields : List FieldMetadata} {labels : Labels}
    {key : String} (h : ∀ n, key ≠ CustomField.keyOf e n) :
    lookup? key (addTitles e fields labels) = lookup? key labels :=
  lookup?_foldl_add_of_ne fields _ h

theorem isSome_lookup?_addTitles {e : Entity} {fields : List FieldMetadata} {labels : Labels}
    {f : FieldMetadata} (h : f ∈ fields) :
    (lookup? (CustomField.keyOf e f.id) (addTitles e fields labels)).isSome = true := by
  obtain ⟨before, after, rfl⟩ := List.append_of_mem h
  unfold addTitles
  rw [List.foldl_append, List.foldl_cons]
  refine isSome_lookup?_foldl_add _ _ ?_
  rw [Labelling.add, lookup?_bindKey_self]
  rfl

theorem forall_addTitles {P : Json → Prop} (htext : ∀ title, P (.str title)) {e : Entity}
    {fields : List FieldMetadata} {labels : Labels} (h : ∀ p ∈ labels, P p.2) :
    ∀ p ∈ addTitles e fields labels, P p.2 := by
  have hfold (l : Labelling) (hl : ∀ p ∈ l.labels, P p.2) :
      ∀ p ∈ (fields.foldl (Labelling.add e) l).labels, P p.2 := by
    induction fields generalizing l with
    | nil => exact hl
    | cons f fs ih =>
      refine ih _ fun p hp => ?_
      rcases mem_bindKey hp with rfl | hp
      · exact htext _
      · exact hl p hp
  exact hfold _ h

theorem titled_eq_ok_iff {e : Entity} {known : List FieldMetadata} {labels next : Labels} :
    titled e known labels = .ok next ↔
      (∀ p ∈ labels, p.2.isKey = true) ∧ next = addTitles e known labels := by
  unfold titled
  rw [← List.all_eq_true]
  split
  · next h => simp [h, eq_comm]
  · next h => simp [h]

/-! ## Fields of one entity -/

def Knows (known : List FieldMetadata) (c : CustomField) : Prop :=
  ∃ f ∈ known, f.id = (c.number : Int)

/-- The last entry of a directory's list for the number of a custom field. -/
def entryFor? (known : List FieldMetadata) (c : CustomField) : Option FieldMetadata :=
  (known.filter (·.id == (c.number : Int))).getLast?

theorem entryFor?_append_singleton (known : List FieldMetadata) (f : FieldMetadata)
    (c : CustomField) : entryFor? (known ++ [f]) c =
      if f.id = (c.number : Int) then some f else entryFor? known c := by
  unfold entryFor?
  rw [List.filter_append]
  by_cases h : f.id = (c.number : Int) <;> simp [h]

theorem exists_entryFor?_iff {known : List FieldMetadata} {c : CustomField} :
    (∃ entry, entryFor? known c = some entry) ↔ Knows known c := by
  unfold entryFor? Knows
  rw [← Option.isSome_iff_exists, List.getLast?_isSome, ne_eq, List.filter_eq_nil_iff]
  simp

/-- A resolved field: with the label of its key as its title and the type that an entry tells. -/
structure ResolvedAs (w : Warehouse) (labels : Labels) (c : CustomField) (entry : FieldMetadata)
    (r : ResolvedField) : Prop where
  field : r.field = c
  title : lookup? c.key labels = some r.title
  type : r.type = entry.type
  isMaterialized : c.isMaterialized w = .ok r.isMaterialized

theorem wanted?_eq_some {wanted : List CustomField} {number : Int} {c : CustomField}
    (h : wanted? wanted number = some c) : c ∈ wanted ∧ (c.number : Int) = number :=
  ⟨List.mem_of_find?_eq_some h, by simpa using List.find?_some h⟩

section Entity

variable {w : Warehouse} {e : Entity} {wanted : List CustomField} {labels : Labels}
  {done next last : List (String × ResolvedField)} {c : CustomField}

theorem wanted?_eq_some_iff (hwanted : ∀ c ∈ wanted, c.entity = e) (hc : c ∈ wanted)
    {number : Int} : wanted? wanted number = some c ↔ number = (c.number : Int) := by
  constructor
  · exact fun h => (wanted?_eq_some h).2.symm
  · rintro rfl
    have hsome : (wanted? wanted (c.number : Int)).isSome = true :=
      List.find?_isSome.mpr ⟨c, hc, beq_iff_eq.mpr rfl⟩
    obtain ⟨c', hc'⟩ := Option.isSome_iff_exists.mp hsome
    obtain ⟨hmem, hnumber⟩ := wanted?_eq_some hc'
    rw [hc', CustomField.eq_of_parts ((hwanted c' hmem).trans (hwanted c hc).symm)
      (Int.ofNat.inj hnumber)]

theorem lookup?_resolveOne (hwanted : ∀ c ∈ wanted, c.entity = e) {f : FieldMetadata}
    (hlabel : (lookup? (CustomField.keyOf e f.id) labels).isSome = true)
    (h : resolveOne w wanted labels done f = .ok next) (hc : c ∈ wanted) :
    if f.id = (c.number : Int) then ∃ r, lookup? c.key next = some r ∧ ResolvedAs w labels c f r
    else lookup? c.key next = lookup? c.key done := by
  unfold resolveOne at h
  split
  · next hid =>
    rw [(wanted?_eq_some_iff hwanted hc).mpr hid] at h
    obtain ⟨materialized, hmaterialized, h⟩ := Returns.of_bind (m := Outcome) h
    cases h
    have hkey : CustomField.keyOf e f.id = c.key := by
      rw [CustomField.key, hwanted c hc, hid]
    obtain ⟨title, htitle⟩ := Option.isSome_iff_exists.mp (hkey ▸ hlabel)
    refine ⟨_, lookup?_bindKey_self .., rfl, ?_, rfl, hmaterialized⟩
    simp only [htitle, Option.getD_some]
  · next hid =>
    split at h
    · cases h
      rfl
    · next c' hc' =>
      obtain ⟨materialized, -, h⟩ := Returns.of_bind (m := Outcome) h
      cases h
      refine lookup?_bindKey_ne (fun hkey => hid ?_) ..
      cases CustomField.key_injective hkey
      exact (wanted?_eq_some hc').2.symm

theorem lookup?_resolveOne_of_ne {f : FieldMetadata} {key : String}
    (hkey : ∀ c ∈ wanted, c.key ≠ key) (h : resolveOne w wanted labels done f = .ok next) :
    lookup? key next = lookup? key done := by
  unfold resolveOne at h
  split at h
  · cases h
    rfl
  · next c hc =>
    obtain ⟨materialized, -, h⟩ := Returns.of_bind (m := Outcome) h
    cases h
    exact lookup?_bindKey_ne (hkey c (wanted?_eq_some hc).1).symm ..

theorem lookup?_foldlM (hwanted : ∀ c ∈ wanted, c.entity = e) (known : List FieldMetadata)
    (hlabels : ∀ f ∈ known, (lookup? (CustomField.keyOf e f.id) labels).isSome = true)
    (h : known.foldlM (resolveOne w wanted labels) done = .ok last) (hc : c ∈ wanted) :
    match entryFor? known c with
    | some entry => ∃ r, lookup? c.key last = some r ∧ ResolvedAs w labels c entry r
    | none => lookup? c.key last = lookup? c.key done := by
  induction known using List.reverseRecOn generalizing last with
  | nil =>
    cases h
    rfl
  | append_singleton fs f ih =>
    rw [List.foldlM_append] at h
    obtain ⟨mid, hmid, h⟩ := Returns.of_bind (m := Outcome) h
    obtain ⟨next, hnext, h⟩ := Returns.of_bind (m := Outcome) h
    cases h
    have hbefore := ih (fun f hf => hlabels f (List.mem_append_left _ hf)) hmid
    have hstep := lookup?_resolveOne hwanted (hlabels f (by simp)) hnext hc
    rw [entryFor?_append_singleton]
    by_cases hid : f.id = (c.number : Int)
    · rw [if_pos hid] at hstep ⊢
      exact hstep
    · rw [if_neg hid] at hstep ⊢
      rw [hstep]
      exact hbefore

theorem lookup?_foldlM_of_ne {key : String} (hkey : ∀ c ∈ wanted, c.key ≠ key)
    (known : List FieldMetadata)
    (h : known.foldlM (resolveOne w wanted labels) done = .ok last) :
    lookup? key last = lookup? key done := by
  induction known generalizing done with
  | nil =>
    cases h
    rfl
  | cons f fs ih =>
    obtain ⟨next, hnext, hrest⟩ := Returns.of_bind (m := Outcome) h
    rw [ih hrest, lookup?_resolveOne_of_ne hkey hnext]

/-- No label is a list or an object. -/
def Comparable (labels : Labels) : Prop := ∀ p ∈ labels, p.2.isKey = true

theorem Comparable.addTitles {labels : Labels} (h : Comparable labels) (known : List FieldMetadata) :
    Comparable (addTitles e known labels) :=
  forall_addTitles (P := fun v => v.isKey = true) (fun _ => rfl) h

theorem resolveEntity_eq_ok_iff {known : List FieldMetadata} {r next : Resolution} :
    resolveEntity w e wanted known r = .ok next ↔
      Comparable r.labels ∧
      known.foldlM (resolveOne w wanted (addTitles e known r.labels)) r.fields =
        .ok next.fields ∧
      next.labels = addTitles e known r.labels := by
  unfold resolveEntity
  simp only [Outcome.bind_eq_ok_iff, titled_eq_ok_iff]
  constructor
  · rintro ⟨_, ⟨hcomparable, rfl⟩, resolved, hresolved, hnext⟩
    cases hnext
    exact ⟨hcomparable, hresolved, rfl⟩
  · rintro ⟨hcomparable, hresolved, hlabels⟩
    refine ⟨_, ⟨hcomparable, rfl⟩, _, hresolved, ?_⟩
    rw [← hlabels]
    rfl

end Entity

/-! ## All entities -/

/-- The resolved fields are those of some selected ones whose entity was asked for and whose number
the directory knows, each from the last entry for its number. -/
structure Exact (w : Warehouse) (fields : List CustomField) (known : Entity → List FieldMetadata)
    (entities : List Entity) (r : Resolution) : Prop where
  resolved : ∀ c ∈ fields, c.entity ∈ entities → ∀ entry, entryFor? (known c.entity) c = some entry →
    ∃ f, lookup? c.key r.fields = some f ∧ ResolvedAs w r.labels c entry f
  only : ∀ key f, lookup? key r.fields = some f →
    ∃ c ∈ fields, c.entity ∈ entities ∧ c.key = key ∧ Knows (known c.entity) c

section Exact

variable {w : Warehouse} {e : Entity} {fields : List CustomField}
  {known : Entity → List FieldMetadata} {entities : List Entity} {r next : Resolution}

theorem Exact.start (labels : Labels) : Exact w fields known [] { labels := labels } where
  resolved c _ h := absurd h List.not_mem_nil
  only key f h := by cases h

theorem ResolvedAs.congr {labels labels' : Labels} {c : CustomField} {entry : FieldMetadata}
    {f : ResolvedField} (h : ResolvedAs w labels c entry f)
    (hlabel : lookup? c.key labels' = lookup? c.key labels) : ResolvedAs w labels' c entry f :=
  ⟨h.field, hlabel.trans h.title, h.type, h.isMaterialized⟩

theorem ResolvedAs.unique {labels : Labels} {c : CustomField} {entry : FieldMetadata}
    {f f' : ResolvedField} (h : ResolvedAs w labels c entry f)
    (h' : ResolvedAs w labels c entry f') : f = f' := by
  obtain ⟨field, title, type, materialized⟩ := f
  obtain ⟨rfl, htitle, rfl, hmaterialized⟩ := h
  obtain ⟨hfield, htitle', htype, hmaterialized'⟩ := h'
  cases f'
  cases hfield
  cases htype
  cases Option.some.inj (htitle.symm.trans htitle')
  cases Except.ok.inj (hmaterialized.symm.trans hmaterialized')
  rfl

theorem Exact.lookup?_eq_some_iff (h : Exact w fields known entities r) {key : String}
    {f : ResolvedField} : lookup? key r.fields = some f ↔
      ∃ c ∈ fields, c.entity ∈ entities ∧ c.key = key ∧
        ∃ entry, entryFor? (known c.entity) c = some entry ∧ ResolvedAs w r.labels c entry f := by
  constructor
  · intro hf
    obtain ⟨c, hc, hentity, rfl, hknows⟩ := h.only key f hf
    obtain ⟨entry, hentry⟩ := exists_entryFor?_iff.mpr hknows
    obtain ⟨f', hf', has⟩ := h.resolved c hc hentity entry hentry
    cases Option.some.inj (hf.symm.trans hf')
    exact ⟨c, hc, hentity, rfl, entry, hentry, has⟩
  · rintro ⟨c, hc, hentity, rfl, entry, hentry, has⟩
    obtain ⟨f', hf', has'⟩ := h.resolved c hc hentity entry hentry
    rw [hf', has.unique has']

theorem Exact.isSome_lookup?_iff (h : Exact w fields known entities r) {c : CustomField}
    (hc : c ∈ fields) : (lookup? c.key r.fields).isSome = true ↔
      c.entity ∈ entities ∧ Knows (known c.entity) c := by
  constructor
  · intro hsome
    obtain ⟨f, hf⟩ := Option.isSome_iff_exists.mp hsome
    obtain ⟨c', -, hentity, hkey, hknows⟩ := h.only _ f hf
    cases CustomField.key_injective hkey
    exact ⟨hentity, hknows⟩
  · rintro ⟨hentity, hknows⟩
    obtain ⟨entry, hentry⟩ := exists_entryFor?_iff.mpr hknows
    obtain ⟨f, hf, -⟩ := h.resolved c hc hentity entry hentry
    rw [hf]
    rfl

theorem Exact.congr {known' : Entity → List FieldMetadata} (h : Exact w fields known entities r)
    (hknown : ∀ e ∈ entities, known' e = known e) : Exact w fields known' entities r where
  resolved c hc hentity := hknown _ hentity ▸ h.resolved c hc hentity
  only key f hf := by
    obtain ⟨c, hc, hentity, hkey, hknows⟩ := h.only key f hf
    exact ⟨c, hc, hentity, hkey, hknown _ hentity ▸ hknows⟩

theorem Exact.skip (h : Exact w fields known entities r) (hnone : ∀ c ∈ fields, c.entity ≠ e) :
    Exact w fields known (e :: entities) r where
  resolved c hc hentity :=
    h.resolved c hc ((List.mem_cons.mp hentity).resolve_left (hnone c hc))
  only key f hf := by
    obtain ⟨c, hc, hentity, hrest⟩ := h.only key f hf
    exact ⟨c, hc, .tail _ hentity, hrest⟩

theorem entity_of_mem_filter {c : CustomField} (h : c ∈ fields.filter (·.entity == e)) :
    c.entity = e :=
  beq_iff_eq.mp (List.mem_filter.mp h).2

/-- Resolving the fields of an entity, also once more, keeps a resolution exact. -/
theorem Exact.resolveEntity (h : Exact w fields known entities r)
    (hnext : resolveEntity w e (fields.filter (·.entity == e)) (known e) r = .ok next) :
    Exact w fields known (e :: entities) next := by
  obtain ⟨-, hresolved, hlabels⟩ := resolveEntity_eq_ok_iff.mp hnext
  have hwanted : ∀ c ∈ fields.filter (·.entity == e), c.entity = e :=
    fun c => entity_of_mem_filter
  have hother {c : CustomField} (hne : c.entity ≠ e) :
      lookup? c.key next.labels = lookup? c.key r.labels ∧
        lookup? c.key next.fields = lookup? c.key r.fields := by
    refine ⟨?_, lookup?_foldlM_of_ne ?_ _ hresolved⟩
    · rw [hlabels]
      exact lookup?_addTitles_of_ne fun n heq => hne (CustomField.entity_eq_of_keyOf_eq heq)
    · intro c' hc' heq
      rw [CustomField.key_injective heq] at hc'
      exact hne (hwanted c hc')
  have hown {c : CustomField} (hc : c ∈ fields.filter (·.entity == e)) :=
    lookup?_foldlM hwanted (known e) (fun f hf => isSome_lookup?_addTitles hf) hresolved hc
  constructor
  · intro c hc hentity entry hentry
    by_cases heq : c.entity = e
    · have hthis := hown (List.mem_filter.mpr ⟨hc, beq_iff_eq.mpr heq⟩)
      rw [heq] at hentry
      rw [hentry] at hthis
      rw [hlabels]
      exact hthis
    · obtain ⟨hlabel, hfield⟩ := hother heq
      obtain ⟨f, hf, has⟩ :=
        h.resolved c hc ((List.mem_cons.mp hentity).resolve_left heq) entry hentry
      exact ⟨f, hfield.trans hf, has.congr hlabel⟩
  · intro key f hf
    by_cases hkey : ∃ c ∈ fields.filter (·.entity == e), c.key = key
    · obtain ⟨c, hc, rfl⟩ := hkey
      have hentity := hwanted c hc
      refine ⟨c, (List.mem_filter.mp hc).1, hentity ▸ .head _, rfl, ?_⟩
      have hthis := hown hc
      cases hentry : entryFor? (known e) c with
      | some entry => exact hentity ▸ exists_entryFor?_iff.mp ⟨entry, hentry⟩
      | none =>
        rw [hentry] at hthis
        obtain ⟨c', -, -, heq, hknows⟩ := h.only _ f (hthis.symm.trans hf)
        exact CustomField.key_injective heq ▸ hknows
    · have hnone : ∀ c ∈ fields.filter (·.entity == e), c.key ≠ key :=
        fun c hc heq => hkey ⟨c, hc, heq⟩
      obtain ⟨c, hc, hentity, hrest⟩ :=
        h.only key f ((lookup?_foldlM_of_ne hnone _ hresolved).symm.trans hf)
      exact ⟨c, hc, .tail _ hentity, hrest⟩

end Exact

section Congruence

variable {m : Type → Type} [Monad m] [MonadExceptOf Failure m] {dir dir' : Directory m}
  {w : Warehouse}

theorem resolveEntities_congr {fields : List CustomField} {entities : List Entity}
    (h : ∀ e ∈ entities, dir.customFields e = dir'.customFields e) (r : Resolution) :
    resolveEntities dir w fields entities r = resolveEntities dir' w fields entities r := by
  induction entities generalizing r with
  | nil => rfl
  | cons e es ih =>
    simp only [resolveEntities, h e (.head _), ih fun e' he' => h e' (.tail _ he')]

theorem resolve_congr {texts : List String} {entities : List Entity} {labels : Labels}
    (h : ∀ e ∈ entities, dir.customFields e = dir'.customFields e) :
    resolve dir w texts entities labels = resolve dir' w texts entities labels := by
  simp only [resolve, resolveEntities_congr h]

end Congruence

section Service

variable {m : Type → Type} [Monad m] [MonadExceptOf Failure m] [MonadAttach m]

/-- Answers to what is asked: each entity of which a field is selected has its list. -/
def AnswersFor (dir : Directory m) (fields : List CustomField) (entities : List Entity)
    (known : Entity → List FieldMetadata) : Prop :=
  ∀ c ∈ fields, c.entity ∈ entities → CanReturn (dir.customFields c.entity) (known c.entity)

variable [LawfulService m] {dir : Directory m} {w : Warehouse}

theorem isEmpty_filter_entity_iff {fields : List CustomField} {e : Entity} :
    (fields.filter (·.entity == e)).isEmpty = true ↔ ∀ c ∈ fields, c.entity ≠ e := by
  simp [List.isEmpty_iff, List.filter_eq_nil_iff]

theorem resolveEntities_cons_returns {fields : List CustomField} {e : Entity} {es : List Entity}
    {r last : Resolution} (h : CanReturn (resolveEntities dir w fields (e :: es) r) last) :
    ((∀ c ∈ fields, c.entity ≠ e) ∧ CanReturn (resolveEntities dir w fields es r) last) ∨
      (∃ c ∈ fields, c.entity = e) ∧ ∃ known next, CanReturn (dir.customFields e) known ∧
        resolveEntity w e (fields.filter (·.entity == e)) known r = .ok next ∧
        CanReturn (resolveEntities dir w fields es next) last := by
  unfold resolveEntities at h
  dsimp only at h
  split at h
  · next hempty => exact .inl ⟨isEmpty_filter_entity_iff.mp hempty, h⟩
  · next hsome =>
    obtain ⟨known, hknown, h⟩ := Returns.of_bind h
    obtain ⟨next, hnext, h⟩ := Returns.of_bind h
    refine .inr ⟨?_, known, next, hknown, Returns.of_lift hnext, h⟩
    simpa [isEmpty_filter_entity_iff] using hsome

theorem resolveEntities_cons_eq_ok_iff {dir : Directory Outcome} {fields : List CustomField}
    {e : Entity} {es : List Entity} {r last : Resolution} :
    resolveEntities dir w fields (e :: es) r = .ok last ↔
      ((∀ c ∈ fields, c.entity ≠ e) ∧ resolveEntities dir w fields es r = .ok last) ∨
      (∃ c ∈ fields, c.entity = e) ∧ ∃ known next, dir.customFields e = .ok known ∧
        resolveEntity w e (fields.filter (·.entity == e)) known r = .ok next ∧
        resolveEntities dir w fields es next = .ok last := by
  constructor
  · exact resolveEntities_cons_returns (m := Outcome)
  · rintro (⟨hnone, h⟩ | ⟨⟨c, hc, he⟩, known, next, hknown, hnext, h⟩)
    · unfold resolveEntities
      rw [if_pos (isEmpty_filter_entity_iff.mpr hnone)]
      exact h
    · unfold resolveEntities
      rw [if_neg fun hempty => isEmpty_filter_entity_iff.mp hempty c hc he]
      refine Outcome.bind_eq_ok_iff.mpr ⟨known, hknown, ?_⟩
      exact Outcome.bind_eq_ok_iff.mpr ⟨next, (Outcome.lift_self _).trans hnext, h⟩

theorem exact_of_resolveEntities {fields : List CustomField} {known : Entity → List FieldMetadata}
    (entities : List Entity) {done : List Entity} {r last : Resolution}
    (h : CanReturn (resolveEntities dir w fields entities r) last)
    (hr : Exact w fields known done r) (hnodup : entities.Nodup) (hnew : ∀ e ∈ entities, e ∉ done) :
    ∃ known', (∀ e ∈ done, known' e = known e) ∧ AnswersFor dir fields entities known' ∧
      Exact w fields known' (entities.reverse ++ done) last := by
  induction entities generalizing known done r with
  | nil =>
    cases Returns.of_pure h
    exact ⟨known, fun _ _ => rfl, fun _ _ hc => absurd hc List.not_mem_nil, hr⟩
  | cons e es ih =>
    obtain ⟨he, hesnodup⟩ := List.nodup_cons.mp hnodup
    have hesnew : ∀ e' ∈ es, e' ∉ e :: done := fun e' he' hmem =>
      (List.mem_cons.mp hmem).elim (fun heq => he (heq ▸ he')) (hnew e' (.tail _ he'))
    rw [List.reverse_cons, List.append_assoc, List.singleton_append]
    rcases resolveEntities_cons_returns h with ⟨hnone, h⟩ | ⟨-, list, next, hlist, hnext, h⟩
    · obtain ⟨known', hkeep, hanswers, hexact⟩ := ih h (hr.skip hnone) hesnodup hesnew
      refine ⟨known', fun e' he' => hkeep e' (.tail _ he'), fun c hc hentity => ?_, hexact⟩
      exact hanswers c hc ((List.mem_cons.mp hentity).resolve_left (hnone c hc))
    · -- the entity is new, so its answer can be taken as what is known of it
      have hold : ∀ e' ∈ done, Function.update known e list e' = known e' := by
        intro e' he'
        have hne : e' ≠ e := fun heq => hnew e (.head _) (heq ▸ he')
        exact Function.update_of_ne hne ..
      have hstep : resolveEntity w e (fields.filter (·.entity == e))
          (Function.update known e list e) r = .ok next := by
        rw [Function.update_self]
        exact hnext
      obtain ⟨known', hkeep, hanswers, hexact⟩ :=
        ih h ((hr.congr hold).resolveEntity hstep) hesnodup hesnew
      refine ⟨known', fun e' he' => (hkeep e' (.tail _ he')).trans (hold e' he'),
        fun c hc hentity => ?_, hexact⟩
      rcases List.mem_cons.mp hentity with heq | hentity
      · rw [heq, hkeep e (.head _), Function.update_self]
        exact hlist
      · exact hanswers c hc hentity

theorem lookup?_labels_resolveEntities {fields : List CustomField} {key : String}
    (hkey : ∀ e n, key ≠ CustomField.keyOf e n) (entities : List Entity) {r last : Resolution}
    (h : CanReturn (resolveEntities dir w fields entities r) last) :
    lookup? key last.labels = lookup? key r.labels := by
  induction entities generalizing r with
  | nil =>
    cases Returns.of_pure h
    rfl
  | cons e es ih =>
    rcases resolveEntities_cons_returns h with ⟨-, h⟩ | ⟨-, known, next, -, hnext, h⟩
    · exact ih h
    · obtain ⟨-, -, hlabels⟩ := resolveEntity_eq_ok_iff.mp hnext
      rw [ih h, hlabels]
      exact lookup?_addTitles_of_ne (hkey e)

variable {texts : List String} {entities : List Entity} {labels : Labels} {r : Resolution}

/-- The resolved fields of a selection are exactly those that the directory knows. -/
theorem exact_of_resolve (h : CanReturn (resolve dir w texts entities labels) r)
    (hnodup : entities.Nodup) :
    ∃ fields known, selected texts = .ok fields ∧ AnswersFor dir fields entities known ∧
      Exact w fields known entities r := by
  obtain ⟨fields, hfields, h⟩ := Returns.of_bind h
  have hstart : Exact w fields (fun _ => []) [] { labels := labels } := .start labels
  obtain ⟨known, -, hanswers, hexact⟩ :=
    exact_of_resolveEntities entities h hstart hnodup fun _ _ => List.not_mem_nil
  refine ⟨fields, known, Returns.of_lift hfields, hanswers, ?_⟩
  constructor
  · exact fun c hc hentity => hexact.resolved c hc (by simpa using hentity)
  · intro key f hf
    simpa using hexact.only key f hf

theorem isSome_lookup?_resolve (h : CanReturn (resolve dir w texts entities labels) r)
    (hnodup : entities.Nodup) :
    ∃ fields known, selected texts = .ok fields ∧ AnswersFor dir fields entities known ∧
      ∀ c ∈ fields, ((lookup? c.key r.fields).isSome = true ↔
        c.entity ∈ entities ∧ Knows (known c.entity) c) := by
  obtain ⟨fields, known, hfields, hanswers, hexact⟩ := exact_of_resolve h hnodup
  exact ⟨fields, known, hfields, hanswers, fun c hc => hexact.isSome_lookup?_iff hc⟩

/-- Every resolved field of a report has its title as the label of its key, and the labels that
were there under other keys are as they were. -/
theorem titles_of_resolve (h : CanReturn (resolve dir w texts entities labels) r)
    (hnodup : entities.Nodup) :
    (∀ key f, lookup? key r.fields = some f → lookup? key r.labels = some f.title) ∧
      ∀ key, (∀ e n, key ≠ CustomField.keyOf e n) → lookup? key r.labels = lookup? key labels := by
  constructor
  · intro key f hf
    obtain ⟨fields, known, -, -, hexact⟩ := exact_of_resolve h hnodup
    obtain ⟨c, -, -, rfl, entry, -, has⟩ := hexact.lookup?_eq_some_iff.mp hf
    exact has.title
  · intro key hkey
    obtain ⟨fields, -, h⟩ := Returns.of_bind h
    exact lookup?_labels_resolveEntities hkey entities h

theorem key_of_resolve (h : CanReturn (resolve dir w texts entities labels) r)
    (hnodup : entities.Nodup) {key : String} {f : ResolvedField}
    (hf : lookup? key r.fields = some f) : key = f.field.key := by
  obtain ⟨fields, known, -, -, hexact⟩ := exact_of_resolve h hnodup
  obtain ⟨c, -, -, rfl, entry, -, has⟩ := hexact.lookup?_eq_some_iff.mp hf
  rw [has.field]

end Service
end LearningReports.CustomFields
