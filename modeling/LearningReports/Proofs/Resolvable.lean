import LearningReports.Proofs.Resolution

/-! # Selections that can be resolved

A selection of custom fields can be resolved exactly when each text can be read and, for each
selected field of an entity that is asked for, the labels can be compared, the directory tells the
fields of the entity and the warehouse can say whether the field is stored. -/
namespace LearningReports.CustomFields

variable {w : Warehouse} {e : Entity} {wanted fields : List CustomField} {labels : Labels}

/-- The warehouse can say whether the values of the field are stored. -/
def Checked (w : Warehouse) (c : CustomField) : Prop := ∃ stored, c.isMaterialized w = .ok stored

/-! ## Fields of one entity -/

theorem resolveOne_returns_iff (hwanted : ∀ c ∈ wanted, c.entity = e)
    {done : List (String × ResolvedField)} {f : FieldMetadata} :
    (∃ next, resolveOne w wanted labels done f = .ok next) ↔
      ∀ c ∈ wanted, f.id = (c.number : Int) → Checked w c := by
  unfold resolveOne
  constructor
  · rintro ⟨next, h⟩ c hc hid
    rw [(wanted?_eq_some_iff hwanted hc).mpr hid] at h
    obtain ⟨stored, hstored, -⟩ := Returns.of_bind (m := Outcome) h
    exact ⟨stored, hstored⟩
  · intro h
    cases hfound : wanted? wanted f.id with
    | none => exact ⟨done, rfl⟩
    | some c =>
      obtain ⟨hc, hnumber⟩ := wanted?_eq_some hfound
      obtain ⟨stored, hstored⟩ := h c hc hnumber.symm
      exact ⟨_, Outcome.bind_eq_ok_iff.mpr ⟨stored, hstored, rfl⟩⟩

theorem foldlM_returns_iff (hwanted : ∀ c ∈ wanted, c.entity = e) (known : List FieldMetadata)
    {done : List (String × ResolvedField)} :
    (∃ last, known.foldlM (resolveOne w wanted labels) done = .ok last) ↔
      ∀ c ∈ wanted, Knows known c → Checked w c := by
  induction known generalizing done with
  | nil => simp [Knows, pure, Except.pure]
  | cons f fs ih =>
    simp only [List.foldlM_cons, Outcome.bind_eq_ok_iff]
    constructor
    · rintro ⟨last, next, hnext, hlast⟩ c hc ⟨g, hg, hid⟩
      rcases List.mem_cons.mp hg with rfl | hg
      · exact (resolveOne_returns_iff hwanted).mp ⟨next, hnext⟩ c hc hid
      · exact ih.mp ⟨last, hlast⟩ c hc ⟨g, hg, hid⟩
    · intro h
      obtain ⟨next, hnext⟩ : ∃ next, resolveOne w wanted labels done f = .ok next :=
        (resolveOne_returns_iff hwanted).mpr fun c hc hid => h c hc ⟨f, .head _, hid⟩
      obtain ⟨last, hlast⟩ : ∃ last, fs.foldlM (resolveOne w wanted labels) next = .ok last :=
        ih.mpr fun c hc ⟨g, hg, hid⟩ => h c hc ⟨g, .tail _ hg, hid⟩
      exact ⟨last, next, hnext, hlast⟩

theorem resolveEntity_returns_iff (hwanted : ∀ c ∈ wanted, c.entity = e)
    {known : List FieldMetadata} {r : Resolution} :
    (∃ next, resolveEntity w e wanted known r = .ok next) ↔
      Comparable r.labels ∧ ∀ c ∈ wanted, Knows known c → Checked w c := by
  have hfold : (∃ last, known.foldlM (resolveOne w wanted (addTitles e known r.labels)) r.fields =
      .ok last) ↔ ∀ c ∈ wanted, Knows known c → Checked w c := foldlM_returns_iff hwanted known
  simp only [resolveEntity_eq_ok_iff]
  rw [← hfold]
  constructor
  · rintro ⟨next, hcomparable, hfields, -⟩
    exact ⟨hcomparable, _, hfields⟩
  · rintro ⟨hcomparable, resolved, hfields⟩
    exact ⟨{ fields := resolved, labels := _ }, hcomparable, hfields, rfl⟩

/-! ## All entities -/

/-- All that the resolution of a selected field asks for is answered. -/
structure Answerable (dir : Directory Outcome) (w : Warehouse) (labels : Labels)
    (c : CustomField) : Prop where
  comparable : Comparable labels
  known : ∃ known, dir.customFields c.entity = .ok known ∧ (Knows known c → Checked w c)

variable {dir : Directory Outcome}

theorem resolveEntities_returns_iff (entities : List Entity) {r : Resolution} :
    (∃ last, resolveEntities dir w fields entities r = .ok last) ↔
      ∀ c ∈ fields, c.entity ∈ entities → Answerable dir w r.labels c := by
  induction entities generalizing r with
  | nil => simp [resolveEntities, pure, Except.pure]
  | cons e es ih =>
    have hwanted : ∀ c ∈ fields.filter (·.entity == e), c.entity = e :=
      fun c => entity_of_mem_filter
    simp only [resolveEntities_cons_eq_ok_iff]
    constructor
    · rintro ⟨last, ⟨hnone, hlast⟩ | ⟨-, known, next, hknown, hnext, hlast⟩⟩ c hc hentity
      · have hlater := (List.mem_cons.mp hentity).resolve_left (hnone c hc)
        exact ih.mp ⟨last, hlast⟩ c hc hlater
      · obtain ⟨hcomparable, hchecked⟩ := (resolveEntity_returns_iff hwanted).mp ⟨next, hnext⟩
        refine ⟨hcomparable, ?_⟩
        rcases List.mem_cons.mp hentity with heq | hentity
        · exact ⟨known, heq ▸ hknown, hchecked c (List.mem_filter.mpr ⟨hc, beq_iff_eq.mpr heq⟩)⟩
        · exact (ih.mp ⟨last, hlast⟩ c hc hentity).known
    · intro h
      by_cases hsome : ∃ c ∈ fields, c.entity = e
      · obtain ⟨c₀, hc₀, rfl⟩ := hsome
        obtain ⟨hcomparable, known, hknown, -⟩ := h c₀ hc₀ (.head _)
        have hchecked : ∀ c ∈ fields.filter (·.entity == c₀.entity), Knows known c →
            Checked w c := by
          intro c hc
          have heq := hwanted c hc
          obtain ⟨known', hknown', hcheck⟩ := (h c (List.mem_filter.mp hc).1 (heq ▸ .head _)).known
          rw [heq, hknown] at hknown'
          cases hknown'
          exact hcheck
        obtain ⟨next, hnext⟩ := (resolveEntity_returns_iff hwanted).mpr ⟨hcomparable, hchecked⟩
        have hlabels : Comparable next.labels := by
          rw [(resolveEntity_eq_ok_iff.mp hnext).2.2]
          exact hcomparable.addTitles known
        obtain ⟨last, hlast⟩ := ih.mpr fun c hc hentity =>
          ⟨hlabels, (h c hc (.tail _ hentity)).known⟩
        exact ⟨last, .inr ⟨⟨c₀, hc₀, rfl⟩, known, next, hknown, hnext, hlast⟩⟩
      · have hnone : ∀ c ∈ fields, c.entity ≠ e := fun c hc heq => hsome ⟨c, hc, heq⟩
        obtain ⟨last, hlast⟩ := ih.mpr fun c hc hentity => h c hc (.tail _ hentity)
        exact ⟨last, .inl ⟨hnone, hlast⟩⟩

/-- A selection can be resolved when its texts can be read and what is asked for its custom fields
is answered. -/
theorem resolve_returns_iff {texts : List String} {entities : List Entity} :
    (∃ r, resolve dir w texts entities labels = .ok r) ↔
      (∀ text ∈ texts, ∃ c, CustomField.parse text = .ok c) ∧
        ∀ text ∈ texts, ∀ c, CustomField.parse text = .ok (some c) → c.entity ∈ entities →
          Answerable dir w labels c := by
  simp only [resolve, Outcome.bind_eq_ok_iff, Outcome.lift_self, selected_eq_ok_iff]
  constructor
  · rintro ⟨r, _, ⟨hparse, rfl⟩, hr⟩
    refine ⟨fun text htext => ⟨_, hparse text htext⟩, fun text htext c hc => ?_⟩
    exact (resolveEntities_returns_iff entities).mp ⟨r, hr⟩ c
      (mem_filterMap_parsed?.mpr ⟨text, htext, hc⟩)
  · rintro ⟨hparse, hanswer⟩
    have hread : ∀ text ∈ texts, CustomField.parse text = .ok (parsed? text) := by
      intro text htext
      obtain ⟨c, hc⟩ := hparse text htext
      rw [parsed?, hc]
    obtain ⟨r, hr⟩ := (resolveEntities_returns_iff (r := { labels := labels }) entities).mpr
      fun c hc => by
        obtain ⟨text, htext, hparsed⟩ := mem_filterMap_parsed?.mp hc
        exact hanswer text htext c hparsed
    exact ⟨r, _, ⟨hread, rfl⟩, hr⟩

end LearningReports.CustomFields
