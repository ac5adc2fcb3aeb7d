import LearningReports.Proofs.Resolution
import Mathlib.Data.List.Nodup

/-! # Distinct labels

Titles of custom fields join the labels under keys that are not bound yet. A title that is not in
use becomes a label as it is, every other one with the entity behind it. Distinct labels stay
distinct unless a title joins them that is in use both with and without the entity. -/
namespace LearningReports.CustomFields

/-! ## Pairs with a new key -/

section Pairs

variable {α : Type} {key : String} {value : α} {pairs : List (String × α)}

theorem bindKey_of_not_mem (h : key ∉ pairs.map Prod.fst) :
    bindKey key value pairs = pairs ++ [(key, value)] := by
  induction pairs with
  | nil => rfl
  | cons p rest ih =>
    rw [List.map_cons, List.mem_cons, not_or] at h
    rw [bindKey, if_neg (Ne.symm h.1), ih h.2, List.cons_append]

end Pairs

/-! ## Titles as labels -/

def InUse (labels : Labels) (text : String) : Prop := .str text ∈ labels.map Prod.snd

def withEntity (e : Entity) (title : String) : String := title ++ " (" ++ e.name ++ ")"

/-- The title becomes the label among some others: as it is, or with the entity if it is in use. -/
structure BecomesLabel (e : Entity) (labels : Labels) (title label : String) : Prop where
  unused : ¬InUse labels title → label = title
  inUse : InUse labels title → label = withEntity e title

/-- The title is in use both as it is and with the entity. -/
def Collides (e : Entity) (labels : Labels) (title : String) : Prop :=
  InUse labels title ∧ InUse labels (withEntity e title)

/-- The fields have different numbers, and no label is bound to the key of one of them. -/
structure AreNew (e : Entity) (fields : List FieldMetadata) (labels : Labels) : Prop where
  distinct : (fields.map (·.id)).Nodup
  unbound : ∀ f ∈ fields, CustomField.keyOf e f.id ∉ labels.map Prod.fst

variable {e : Entity} {fields before after : List FieldMetadata} {f : FieldMetadata}
  {labels : Labels}

theorem AreNew.of_append (h : AreNew e (before ++ after) labels) : AreNew e before labels where
  distinct := (List.nodup_append.mp (List.map_append ▸ h.distinct)).1
  unbound g hg := h.unbound g (List.mem_append_left _ hg)

/-- The labels after some fields, and the texts that are in use. -/
def labelling (e : Entity) (fields : List FieldMetadata) (labels : Labels) : Labelling :=
  fields.foldl (Labelling.add e) { labels := labels, used := usedTexts labels }

/-- The labels have an entry for each field behind the old ones, and their texts are in use. -/
structure Labelling.Tracks (l : Labelling) (e : Entity) (fields : List FieldMetadata)
    (labels : Labels) : Prop where
  keys : l.labels.map Prod.fst = labels.map Prod.fst ++ fields.map (CustomField.keyOf e ·.id)
  used : ∀ text, text ∈ l.used ↔ InUse l.labels text

theorem Labelling.Tracks.unbound {l : Labelling} (hl : l.Tracks e before labels)
    (h : AreNew e (before ++ [f]) labels) :
    CustomField.keyOf e f.id ∉ l.labels.map Prod.fst := by
  rw [hl.keys, List.mem_append, not_or]
  refine ⟨h.unbound f (by simp), fun hmem => ?_⟩
  obtain ⟨g, hg, hkey⟩ := List.mem_map.mp hmem
  have hdistinct := h.distinct
  rw [List.map_append, List.nodup_append] at hdistinct
  exact hdistinct.2.2 _ (List.mem_map_of_mem hg) _ (List.mem_singleton_self _)
    (CustomField.number_eq_of_keyOf_eq hkey)

theorem Labelling.Tracks.labels_add {l : Labelling} (hl : l.Tracks e before labels)
    (h : AreNew e (before ++ [f]) labels) : (l.add e f).labels =
      l.labels ++ [(CustomField.keyOf e f.id, .str (labelFor e l.used f.title))] :=
  bindKey_of_not_mem (hl.unbound h)

theorem Labelling.Tracks.add {l : Labelling} (hl : l.Tracks e before labels)
    (h : AreNew e (before ++ [f]) labels) : (l.add e f).Tracks e (before ++ [f]) labels where
  keys := by
    rw [hl.labels_add h, List.map_append, hl.keys, List.append_assoc, List.map_append]
    rfl
  used text := by
    rw [hl.labels_add h, InUse, List.map_append, List.mem_append]
    change text ∈ labelFor e l.used f.title :: l.used ↔ _
    rw [List.mem_cons, hl.used, InUse, or_comm]
    simp

theorem Labelling.Tracks.becomesLabel {l : Labelling} (hl : l.Tracks e before labels)
    (title : String) : BecomesLabel e l.labels title (labelFor e l.used title) := by
  have hinUse : isUsed l.used title = true ↔ InUse l.labels title := by
    rw [isUsed, List.contains_iff_mem, hl.used]
  constructor
  · intro hunused
    rw [labelFor, if_neg (mt hinUse.mp hunused)]
  · intro hused
    rw [labelFor, if_pos (hinUse.mpr hused)]
    rfl

theorem tracks_labelling (h : AreNew e fields labels) :
    (labelling e fields labels).Tracks e fields labels := by
  induction fields using List.reverseRecOn with
  | nil => exact ⟨(List.append_nil _).symm, fun text => mem_usedTexts_iff⟩
  | append_singleton before f ih =>
    rw [labelling, List.foldl_append]
    exact (ih h.of_append).add h

/-! ## All titles of an entity -/

theorem addTitles_append_singleton (h : AreNew e (before ++ [f]) labels) : ∃ label,
    addTitles e (before ++ [f]) labels =
      addTitles e before labels ++ [(CustomField.keyOf e f.id, .str label)] ∧
    lookup? (CustomField.keyOf e f.id) (addTitles e (before ++ [f]) labels) = some (.str label) ∧
    BecomesLabel e (addTitles e before labels) f.title label := by
  have hl := tracks_labelling h.of_append
  have hadd : addTitles e (before ++ [f]) labels =
      ((labelling e before labels).add e f).labels := by
    rw [addTitles, List.foldl_append]
    rfl
  rw [hadd]
  exact ⟨_, hl.labels_add h, lookup?_bindKey_self .., hl.becomesLabel f.title⟩

theorem prefix_addTitles (h : AreNew e (before ++ after) labels) :
    addTitles e before labels <+: addTitles e (before ++ after) labels := by
  induction after using List.reverseRecOn with
  | nil => simp
  | append_singleton more f ih =>
    rw [← List.append_assoc] at h ⊢
    obtain ⟨label, hlabels, -⟩ := addTitles_append_singleton h
    rw [hlabels]
    exact (ih h.of_append).trans (List.prefix_append _ _)

/-- The old labels, then an entry for each field in order, with what its title became when its turn
came. -/
structure Joined (e : Entity) (fields : List FieldMetadata) (labels updated : Labels) : Prop where
  kept : labels <+: updated
  keys : updated.map Prod.fst = labels.map Prod.fst ++ fields.map (CustomField.keyOf e ·.id)
  titles : ∀ before f after, fields = before ++ f :: after →
    ∃ label, lookup? (CustomField.keyOf e f.id) updated = some (.str label) ∧
      BecomesLabel e (addTitles e before labels) f.title label

theorem joined_addTitles (h : AreNew e fields labels) :
    Joined e fields labels (addTitles e fields labels) where
  kept := by
    have hprefix : addTitles e [] labels <+: addTitles e ([] ++ fields) labels :=
      prefix_addTitles h
    exact hprefix
  keys := (tracks_labelling h).keys
  titles before f after hfields := by
    rw [List.append_cons] at hfields
    subst hfields
    obtain ⟨label, -, hlookup, hbecomes⟩ := addTitles_append_singleton h.of_append
    obtain ⟨more, hmore⟩ := prefix_addTitles h
    refine ⟨label, ?_, hbecomes⟩
    rw [← hmore, lookup?_append, hlookup, Option.some_or]

/-- No field comes with a title that collides with the labels before it. -/
def NoneCollides (e : Entity) (fields : List FieldMetadata) (labels : Labels) : Prop :=
  ∀ before f after, fields = before ++ f :: after →
    ¬Collides e (addTitles e before labels) f.title

theorem noneCollides_append_singleton : NoneCollides e (before ++ [f]) labels ↔
    NoneCollides e before labels ∧ ¬Collides e (addTitles e before labels) f.title := by
  constructor
  · intro h
    refine ⟨fun front g rest hfields => h front g (rest ++ [f]) ?_, h before f [] rfl⟩
    rw [hfields, List.append_assoc, List.cons_append]
  · rintro ⟨hbefore, hf⟩ front g rest hfields
    rcases List.eq_nil_or_concat rest with rfl | ⟨rest, g', rfl⟩
    · obtain ⟨rfl, heq⟩ := List.append_inj' hfields rfl
      cases heq
      exact hf
    · rw [List.concat_eq_append, ← List.cons_append, ← List.append_assoc] at hfields
      obtain ⟨rfl, -⟩ := List.append_inj' hfields rfl
      exact hbefore front g rest rfl

/-- The label that a title becomes is new unless the title collides. -/
theorem BecomesLabel.inUse_iff {title label : String} (h : BecomesLabel e labels title label) :
    InUse labels label ↔ Collides e labels title := by
  by_cases hused : InUse labels title
  · rw [h.inUse hused, Collides, and_iff_right hused]
  · rw [h.unused hused, Collides]
    exact iff_of_false hused fun hboth => hused hboth.1

/-- Distinct labels stay distinct exactly when no title collides. -/
theorem nodup_addTitles_iff (h : AreNew e fields labels) (hlabels : (labels.map Prod.snd).Nodup) :
    ((addTitles e fields labels).map Prod.snd).Nodup ↔ NoneCollides e fields labels := by
  induction fields using List.reverseRecOn with
  | nil =>
    refine iff_of_true hlabels fun front f rest hfields => ?_
    exact absurd (List.append_eq_nil_iff.mp hfields.symm).2 (List.cons_ne_nil f rest)
  | append_singleton before f ih =>
    obtain ⟨label, hadded, -, hbecomes⟩ := addTitles_append_singleton h
    rw [noneCollides_append_singleton, ← ih h.of_append, ← hbecomes.inUse_iff, hadded,
      List.map_append, List.map_singleton, ← List.concat_eq_append, List.nodup_concat, and_comm]
    rfl

/-- New titles can join all labels that can be compared. Distinct labels stay distinct exactly when
no title is in use both with and without the entity when its turn comes. -/
theorem titled_distinct_iff (h : AreNew e fields labels) (hcomparable : Comparable labels)
    (hlabels : (labels.map Prod.snd).Nodup) :
    ∃ updated, titled e fields labels = .ok updated ∧ Joined e fields labels updated ∧
      ((updated.map Prod.snd).Nodup ↔ NoneCollides e fields labels) :=
  ⟨_, titled_eq_ok_iff.mpr ⟨hcomparable, rfl⟩, joined_addTitles h, nodup_addTitles_iff h hlabels⟩

def regions (count : Nat) : List FieldMetadata :=
  (List.range count).map fun n => { id := n + 1, title := "Region", type := "" }

def usernames : Labels := [("user_userid", .str "Username")]

theorem areNew_three : AreNew .user (regions 3) usernames where
  distinct := by decide
  unbound f _ hmem :=
    CustomField.keyOf_ne_id .user f.id .userUserid (List.mem_singleton.mp hmem)

theorem titled_distinct_iff_two : AreNew .user (regions 2) usernames ∧ Comparable usernames ∧
    (usernames.map Prod.snd).Nodup ∧ ∃ updated,
      titled .user (regions 2) usernames = .ok updated ∧ Joined .user (regions 2) usernames updated ∧
      (updated.map Prod.snd).Nodup ∧ NoneCollides .user (regions 2) usernames := by
  have hnew : AreNew .user (regions 2) usernames := areNew_three.of_append
  have hcomparable : Comparable usernames := List.all_eq_true.mp (by decide)
  have hlabels : (usernames.map Prod.snd).Nodup := List.nodup_singleton _
  obtain ⟨updated, hupdated, hjoined, hiff⟩ := titled_distinct_iff hnew hcomparable hlabels
  have hdistinct : (updated.map Prod.snd).Nodup := by
    cases hupdated
    change [Json.str "Username", .str "Region", .str "Region (user)"].Nodup
    simp
  exact ⟨hnew, hcomparable, hlabels, updated, hupdated, hjoined, hdistinct, hiff.mp hdistinct⟩

/-- A third field of the same title gets the label of the second one. -/
theorem titled_three_regions : AreNew .user (regions 3) usernames ∧ Comparable usernames ∧
    (usernames.map Prod.snd).Nodup ∧ ∃ updated, titled .user (regions 3) usernames = .ok updated ∧
      updated.map Prod.snd =
        [.str "Username", .str "Region", .str "Region (user)", .str "Region (user)"] ∧
      ¬(updated.map Prod.snd).Nodup := by
  refine ⟨areNew_three, List.all_eq_true.mp (by decide), List.nodup_singleton _, _, rfl, rfl, ?_⟩
  change ¬[Json.str "Username", .str "Region", .str "Region (user)", .str "Region (user)"].Nodup
  simp

end LearningReports.CustomFields
