import LearningReports.Proofs.ContextViews

/-! # Custom fields of fewer selections

When a selection of custom fields can be resolved, so can every part of it. The fields that are left
are resolved as before, but for their titles, which depend on what else is in use as a label. -/
namespace LearningReports.CustomFields

theorem selected_of_subset {texts texts' : List String} {fields : List CustomField}
    (h : selected texts = .ok fields) (hsub : texts' ⊆ texts) :
    fields = texts.filterMap parsed? ∧ selected texts' = .ok (texts'.filterMap parsed?) := by
  obtain ⟨hparse, hfields⟩ := selected_eq_ok_iff.mp h
  exact ⟨hfields, selected_eq_ok_iff.mpr ⟨fun text htext => hparse text (hsub htext), rfl⟩⟩

/-! ## Fields of one entity -/

/-- On some custom fields, the resolved fields are the same but for their titles. -/
def SameOn (fields : List CustomField) (done done' : List (String × ResolvedField)) : Prop :=
  ∀ c ∈ fields, (lookup? c.key done').map ResolvedField.untitled =
    (lookup? c.key done).map ResolvedField.untitled

variable {w : Warehouse} {e : Entity} {fields wanted wanted' : List CustomField}
  {labels labels' : Labels} {done done' next last : List (String × ResolvedField)}

theorem SameOn.bindKey (h : SameOn fields done done') {key : String} {r r' : ResolvedField}
    (hr : r'.untitled = r.untitled) :
    SameOn fields (LearningReports.bindKey key r done) (LearningReports.bindKey key r' done') := by
  intro c hc
  by_cases hkey : c.key = key
  · rw [hkey, lookup?_bindKey_self, lookup?_bindKey_self, Option.map_some, hr, Option.map_some]
  · rw [lookup?_bindKey_ne hkey, lookup?_bindKey_ne hkey]
    exact h c hc

/-- The fewer fields of an entity are those among all of them that are asked for. -/
structure Fewer (e : Entity) (fields wanted wanted' : List CustomField) : Prop where
  entity : ∀ c ∈ wanted, c.entity = e
  subset : wanted' ⊆ wanted
  asked : ∀ c ∈ fields, c.entity = e → c ∈ wanted'

theorem fewer_filter {all : List CustomField} (h : fields ⊆ all) (e : Entity) :
    Fewer e fields (all.filter (·.entity == e)) (fields.filter (·.entity == e)) where
  entity c := entity_of_mem_filter
  subset c hc := by
    obtain ⟨hmem, hentity⟩ := List.mem_filter.mp hc
    exact List.mem_filter.mpr ⟨h hmem, hentity⟩
  asked c hc hentity := List.mem_filter.mpr ⟨hc, beq_iff_eq.mpr hentity⟩

theorem Fewer.wanted? (h : Fewer e fields wanted wanted') {number : Int} {c : CustomField}
    (hc : wanted? wanted' number = some c) : CustomFields.wanted? wanted number = some c := by
  obtain ⟨hmem, hnumber⟩ := wanted?_eq_some hc
  exact (wanted?_eq_some_iff h.entity (h.subset hmem)).mpr hnumber.symm

theorem resolveOne_of_fewer (h : Fewer e fields wanted wanted') {f : FieldMetadata}
    (hnext : resolveOne w wanted labels done f = .ok next) (hdone : SameOn fields done done') :
    ∃ next', resolveOne w wanted' labels' done' f = .ok next' ∧ SameOn fields next next' := by
  unfold resolveOne at hnext ⊢
  cases hc' : CustomFields.wanted? wanted' f.id with
  | none =>
    refine ⟨done', rfl, ?_⟩
    split at hnext
    · cases hnext
      exact hdone
    · next c hc =>
      obtain ⟨materialized, -, hnext⟩ := Returns.of_bind (m := Outcome) hnext
      cases hnext
      intro c' hmem
      obtain ⟨hwanted, hnumber⟩ := wanted?_eq_some hc
      -- the field is not asked for, so its key is that of no other field
      have hkey : c'.key ≠ c.key := by
        intro heq
        rw [CustomField.key_injective heq] at hmem
        have hasked : c ∈ wanted' := h.asked c hmem (h.entity c hwanted)
        exact List.find?_eq_none.mp hc' c hasked (beq_iff_eq.mpr hnumber)
      rw [lookup?_bindKey_ne hkey]
      exact hdone c' hmem
  | some c =>
    rw [h.wanted? hc'] at hnext
    obtain ⟨materialized, hmaterialized, hnext⟩ := Returns.of_bind (m := Outcome) hnext
    cases hnext
    have hstored : c.isMaterialized w = .ok materialized := hmaterialized
    refine ⟨bindKey c.key
      { field := c, title := (lookup? c.key labels').getD .null, type := f.type
        isMaterialized := materialized } done', ?_, hdone.bindKey rfl⟩
    dsimp only
    rw [hstored]
    rfl

theorem foldlM_of_fewer (labels' : Labels) (h : Fewer e fields wanted wanted')
    {known : List FieldMetadata}
    (hlast : known.foldlM (resolveOne w wanted labels) done = .ok last)
    (hdone : SameOn fields done done') :
    ∃ last', known.foldlM (resolveOne w wanted' labels') done' = .ok last' ∧
      SameOn fields last last' := by
  induction known generalizing done done' with
  | nil =>
    cases hlast
    exact ⟨done', rfl, hdone⟩
  | cons f fs ih =>
    obtain ⟨next, hnext, hrest⟩ := Returns.of_bind (m := Outcome) hlast
    obtain ⟨next', hnext', hsame⟩ := resolveOne_of_fewer h hnext hdone
    obtain ⟨last', hlast', hsame⟩ := ih hrest hsame
    refine ⟨last', ?_, hsame⟩
    rw [List.foldlM_cons, hnext']
    exact hlast'

theorem foldlM_of_none (known : List FieldMetadata) :
    known.foldlM (resolveOne w [] labels) done = .ok done := by
  induction known with
  | nil => rfl
  | cons f fs ih => exact ih

/-! ## All entities -/

/-- A resolution of fewer fields goes along with one of all fields. -/
structure Follows (fields : List CustomField) (r r' : Resolution) : Prop where
  same : SameOn fields r.fields r'.fields
  comparable : Comparable r.labels → Comparable r'.labels

theorem resolveEntity_of_fewer (h : Fewer e fields wanted wanted') {known : List FieldMetadata}
    {r r' next : Resolution} (hnext : resolveEntity w e wanted known r = .ok next)
    (hr : Follows fields r r') :
    (∃ next', resolveEntity w e wanted' known r' = .ok next' ∧ Follows fields next next') ∧
      (wanted' = [] → Follows fields next r') := by
  obtain ⟨hcomparable, hresolved, hlabels⟩ := resolveEntity_eq_ok_iff.mp hnext
  have hcomparable' : Comparable r'.labels := hr.comparable hcomparable
  constructor
  · obtain ⟨resolved', hresolved', hsame⟩ :=
      foldlM_of_fewer (addTitles e known r'.labels) h hresolved hr.same
    refine ⟨{ fields := resolved', labels := addTitles e known r'.labels },
      resolveEntity_eq_ok_iff.mpr ⟨hcomparable', hresolved', rfl⟩, hsame, fun _ => ?_⟩
    exact hcomparable'.addTitles known
  · rintro rfl
    obtain ⟨resolved', hresolved', hsame⟩ := foldlM_of_fewer r'.labels h hresolved hr.same
    rw [foldlM_of_none] at hresolved'
    cases hresolved'
    exact ⟨hsame, fun _ => hcomparable'⟩

section Service

variable {dir : Directory Outcome}

theorem resolveEntities_of_fewer {all : List CustomField} (hsub : fields ⊆ all)
    (entities : List Entity) {r r' last : Resolution}
    (h : resolveEntities dir w all entities r = .ok last) (hr : Follows fields r r') :
    ∃ last', resolveEntities dir w fields entities r' = .ok last' ∧ Follows fields last last' := by
  induction entities generalizing r r' with
  | nil =>
    cases h
    exact ⟨r', rfl, hr⟩
  | cons e es ih =>
    have hskip (hnone : ∀ c ∈ fields, c.entity ≠ e) {next : Resolution}
        (h : resolveEntities dir w all es next = .ok last) (hr : Follows fields next r') :
        ∃ last', resolveEntities dir w fields (e :: es) r' = .ok last' ∧
          Follows fields last last' := by
      obtain ⟨last', hlast', hfollows⟩ := ih h hr
      exact ⟨last', resolveEntities_cons_eq_ok_iff.mpr (.inl ⟨hnone, hlast'⟩), hfollows⟩
    rcases resolveEntities_cons_eq_ok_iff.mp h with ⟨hnone, h⟩ | ⟨-, known, next, hknown, hnext, h⟩
    · exact hskip (fun c hc => hnone c (hsub hc)) h hr
    · obtain ⟨⟨next', hnext', hfollows⟩, hskipped⟩ :=
        resolveEntity_of_fewer (fewer_filter hsub e) hnext hr
      by_cases hsome : ∃ c ∈ fields, c.entity = e
      · obtain ⟨last', hlast', hfollows⟩ := ih h hfollows
        exact ⟨last', resolveEntities_cons_eq_ok_iff.mpr
          (.inr ⟨hsome, known, next', hknown, hnext', hlast'⟩), hfollows⟩
      · have hnone : ∀ c ∈ fields, c.entity ≠ e := fun c hc heq => hsome ⟨c, hc, heq⟩
        have hempty := List.isEmpty_iff.mp (isEmpty_filter_entity_iff.mpr hnone)
        exact hskip hnone h (hskipped hempty)

/-- Of a selection that can be resolved, every part can be resolved, and the fields that are left
are resolved as before. -/
theorem resolve_of_subset {texts texts' : List String} {entities : List Entity} {r : Resolution}
    (h : resolve dir w texts entities labels = .ok r) (hsub : texts' ⊆ texts)
    (hlabels : Comparable labels → Comparable labels') :
    ∃ r', resolve dir w texts' entities labels' = .ok r' ∧
      SameOn (texts'.filterMap parsed?) r.fields r'.fields := by
  obtain ⟨fields, hfields, h⟩ := Returns.of_bind (m := Outcome) h
  obtain ⟨rfl, hselected⟩ := selected_of_subset (Returns.of_lift (m := Outcome) hfields) hsub
  have hfewer : texts'.filterMap parsed? ⊆ texts.filterMap parsed? := fun c hc => by
    obtain ⟨text, htext, hparsed⟩ := List.mem_filterMap.mp hc
    exact List.mem_filterMap.mpr ⟨text, hsub htext, hparsed⟩
  have hstart : Follows (texts'.filterMap parsed?) { labels := labels } { labels := labels' } :=
    ⟨fun _ _ => rfl, hlabels⟩
  obtain ⟨r', hr', hfollows⟩ := resolveEntities_of_fewer hfewer entities h hstart
  refine ⟨r', ?_, hfollows.same⟩
  rw [resolve, hselected]
  exact hr'

end Service
end LearningReports.CustomFields
