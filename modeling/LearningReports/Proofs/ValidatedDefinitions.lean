import LearningReports.Proofs.ImportedDefinitions
import LearningReports.Proofs.ShortIntegers

/-! # Validated definitions

A definition that was read from any value, or made new, has text bounds, and a table of options with
each key once and within the limit of digits. So it is written and read again unchanged. -/
namespace LearningReports

namespace Checked

variable {α β : Type}

theorem at_eq_valid_iff {step : Step} {x : Checked α} {a : α} :
    x.at step = .valid a ↔ x = .valid a := by
  cases x <;> simp [«at»]

theorem map_eq_valid_iff {f : α → β} {x : Checked α} {b : β} :
    x.map f = .valid b ↔ ∃ a, x = .valid a ∧ f a = b := by
  cases x <;> simp [map]

theorem forall_seq {f : Checked (α → β)} {x : Checked α} {p : β → Prop} :
    (∀ b, f <*> x = .valid b → p b) ↔
      ∀ g, f = .valid g → ∀ a, x = .valid a → p (g a) := by
  change (∀ b, f.seq x = .valid b → p b) ↔ _
  simp only [seq_eq_valid_iff]
  constructor
  · exact fun h g hg a ha => h _ ⟨g, a, hg, ha, rfl⟩
  · rintro h b ⟨g, a, hg, ha, rfl⟩
    exact h g hg a ha

theorem forall_map {f : α → β} {x : Checked α} {p : β → Prop} :
    (∀ b, f <$> x = .valid b → p b) ↔ ∀ a, x = .valid a → p (f a) := by
  change (∀ b, x.map f = .valid b → p b) ↔ _
  simp only [map_eq_valid_iff]
  constructor
  · exact fun h a ha => h _ ⟨a, ha, rfl⟩
  · rintro h b ⟨a, ha, rfl⟩
    exact h a ha

end Checked

namespace Decode

variable {α : Type}

theorem of_optional {ms : Members} {name alternative : String} {dec : Decoder α} {default a : α}
    (h : optional ms name alternative dec default = .valid a) :
    a = default ∨ ∃ v, dec v = .valid a := by
  unfold optional at h
  split at h
  · exact .inr ⟨_, Checked.at_eq_valid_iff.mp h⟩
  · cases h
    exact .inl rfl

theorem of_nullable {dec : Decoder α} {v : Json} {o : Option α} (h : nullable dec v = .valid o) :
    ∀ a ∈ o, ∃ v, dec v = .valid a := by
  unfold nullable at h
  split at h
  · cases h
    nofun
  · obtain ⟨a, ha, rfl⟩ := Checked.map_eq_valid_iff.mp h
    rintro _ ⟨⟩
    exact ⟨_, ha⟩

theorem of_maybe {ms : Members} {name alternative : String} {dec : Decoder α} {o : Option α}
    (h : maybe ms name alternative dec = .valid o) : ∀ a ∈ o, ∃ v, dec v = .valid a := by
  rcases of_optional h with rfl | ⟨v, hv⟩
  · nofun
  · exact of_nullable hv

/-! ## Dates -/

theorem isText_of_bound {ms : Members} {name alternative : String} {b : Json}
    (h : optional ms name alternative bound (.str "") = .valid b) : b.text?.isSome = true := by
  rcases of_optional h with rfl | ⟨v, hv⟩
  · rfl
  · obtain ⟨s, -, rfl⟩ := Checked.map_eq_valid_iff.mp hv
    rfl

theorem hasTextBounds_dateOption {v : Json} : ∀ o, dateOption v = .valid o → o.HasTextBounds := by
  unfold dateOption record object
  split
  · simp only [Checked.forall_seq, Checked.forall_map]
    rintro isAny - type - operator - days - first hfirst last hlast
    exact ⟨isText_of_bound hfirst, isText_of_bound hlast⟩
  · rintro o ⟨⟩

theorem textDate_maybe {ms : Members} {name alternative : String} {o : Option DateOption}
    (h : maybe ms name alternative dateOption = .valid o) : TextDate o := by
  intro x hx
  obtain ⟨v, hv⟩ := of_maybe h x hx
  exact hasTextBounds_dateOption x hv

theorem hasTextBounds_optional {ms : Members} {name alternative : String} {o : DateOption}
    (h : optional ms name alternative dateOption {} = .valid o) : o.HasTextBounds := by
  rcases of_optional h with rfl | ⟨v, hv⟩
  · exact Legacy.hasTextBounds_default
  · exact hasTextBounds_dateOption o hv

theorem textBounds_sessionDates {v : Json} : ∀ s, sessionDates v = .valid s →
    s.start.HasTextBounds ∧ s.finish.HasTextBounds := by
  unfold sessionDates record object
  split
  · simp only [Checked.forall_seq, Checked.forall_map]
    rintro conditions - start hstart finish hfinish
    exact ⟨hasTextBounds_optional hstart, hasTextBounds_optional hfinish⟩
  · rintro s ⟨⟩

/-! ## Tables of options -/

theorem isShort_of_int {k : String} {n : Int} (h : int (.str k) = .valid n) :
    Number.IsShort n := by
  rw [int] at h
  split at h
  · cases h
    exact Number.isShort_of_readPlainInteger ‹_›
  · cases h
  · cases h

theorem int_toString {n : Int} (h : Number.IsShort n) : int (.str (toString n)) = .valid n := by
  rw [int, Number.readPlainInteger_toString h]

theorem isShort_of_integerEntries {ms : Members} {entries : List (Int × Int)}
    (h : integerEntries ms = .valid entries) : ∀ e ∈ entries, Number.IsShort e.1 := by
  induction ms generalizing entries with
  | nil =>
    cases h
    nofun
  | cons m ms ih =>
    obtain ⟨f, rest, hf, hrest, rfl⟩ := Checked.seq_eq_valid_iff.mp h
    obtain ⟨g, value, hg, -, rfl⟩ := Checked.seq_eq_valid_iff.mp hf
    obtain ⟨n, hn, rfl⟩ := Checked.map_eq_valid_iff.mp hg
    have hkey : int (.str m.1) = .valid n :=
      Checked.at_eq_valid_iff.mp (Checked.at_eq_valid_iff.mp hn)
    exact List.forall_mem_cons.mpr ⟨isShort_of_int hkey, ih hrest⟩

/-- Each key of a table stands once, and is short. -/
structure TableOfOptions (entries : List (Int × Int)) : Prop where
  distinct : (entries.map Prod.fst).Nodup
  short : ∀ e ∈ entries, Number.IsShort e.1

def putEntry (done : List (Int × Int)) (e : Int × Int) : List (Int × Int) :=
  if done.any (·.1 == e.1) then done.map fun d => if d.1 == e.1 then e else d else done ++ [e]

theorem mergeEntries_eq (entries : List (Int × Int)) : mergeEntries entries =
    entries.foldl putEntry [] := rfl

theorem putEntry_of_new {done : List (Int × Int)} {e : Int × Int}
    (h : e.1 ∉ done.map Prod.fst) : putEntry done e = done ++ [e] := by
  have hno : done.any (·.1 == e.1) = false := by
    refine List.any_eq_false.mpr fun d hd heq => h ?_
    exact List.mem_map.mpr ⟨d, hd, beq_iff_eq.mp heq⟩
  rw [putEntry, hno]
  rfl

theorem keys_putEntry {done : List (Int × Int)} {e : Int × Int}
    (h : e.1 ∈ done.map Prod.fst) : (putEntry done e).map Prod.fst = done.map Prod.fst := by
  have hyes : done.any (·.1 == e.1) = true := by
    obtain ⟨d, hd, heq⟩ := List.mem_map.mp h
    exact List.any_eq_true.mpr ⟨d, hd, beq_iff_eq.mpr heq⟩
  rw [putEntry, hyes, if_pos rfl, List.map_map]
  refine List.map_congr_left fun d _ => ?_
  by_cases heq : d.1 = e.1
  · simp [heq]
  · simp [heq]

theorem TableOfOptions.put {done : List (Int × Int)} {e : Int × Int} (h : TableOfOptions done)
    (he : Number.IsShort e.1) : TableOfOptions (putEntry done e) where
  distinct := by
    by_cases hmem : e.1 ∈ done.map Prod.fst
    · rw [keys_putEntry hmem]
      exact h.distinct
    · rw [putEntry_of_new hmem, List.map_append]
      exact List.nodup_append.mpr ⟨h.distinct, by simp,
        fun a ha b hb hab => hmem (List.mem_singleton.mp hb ▸ hab ▸ ha)⟩
  short := by
    unfold putEntry
    split
    · intro d hd
      obtain ⟨d', hd', rfl⟩ := List.mem_map.mp hd
      split
      · exact he
      · exact h.short d' hd'
    · exact List.forall_mem_append.mpr ⟨h.short, List.forall_mem_singleton.mpr he⟩

theorem tableOfOptions_foldl {entries done : List (Int × Int)} (hdone : TableOfOptions done)
    (h : ∀ e ∈ entries, Number.IsShort e.1) : TableOfOptions (entries.foldl putEntry done) := by
  induction entries generalizing done with
  | nil => exact hdone
  | cons e entries ih =>
    obtain ⟨he, hrest⟩ := List.forall_mem_cons.mp h
    exact ih (hdone.put he) hrest

theorem tableOfOptions_of_integerTable {v : Json} {entries : List (Int × Int)}
    (h : integerTable v = .valid entries) : TableOfOptions entries := by
  unfold integerTable at h
  split at h
  · obtain ⟨read, hread, rfl⟩ := Checked.map_eq_valid_iff.mp h
    rw [mergeEntries_eq]
    exact tableOfOptions_foldl ⟨List.nodup_nil, nofun⟩ (isShort_of_integerEntries hread)
  · cases h

theorem foldl_putEntry {done entries : List (Int × Int)}
    (h : ((done ++ entries).map Prod.fst).Nodup) :
    entries.foldl putEntry done = done ++ entries := by
  induction entries generalizing done with
  | nil => exact (List.append_nil done).symm
  | cons e entries ih =>
    have hnew : e.1 ∉ done.map Prod.fst := by
      rw [List.map_append, List.nodup_append] at h
      exact fun hmem => h.2.2 _ hmem e.1 (.head _) rfl
    rw [List.append_cons] at h ⊢
    rw [List.foldl_cons, putEntry_of_new hnew, ih h]

theorem integerEntries_of_short {entries : List (Int × Int)}
    (h : ∀ e ∈ entries, Number.IsShort e.1) :
    integerEntries (entries.map fun (k, v) => (toString k, Json.int v)) = .valid entries := by
  induction entries with
  | nil => rfl
  | cons e entries ih =>
    obtain ⟨he, hrest⟩ := List.forall_mem_cons.mp h
    rw [List.map_cons, integerEntries, int_toString he, ih hrest]
    rfl

/-- A table with distinct short keys is read as it was written. -/
theorem integerTable_of_options {entries : List (Int × Int)} (h : TableOfOptions entries) :
    integerTable (Encode.integerTable entries) = .valid entries := by
  rw [Encode.integerTable, integerTable, integerEntries_of_short h.short]
  change Checked.valid (mergeEntries entries) = _
  rw [mergeEntries_eq]
  exact congrArg Checked.valid (foldl_putEntry h.distinct)

/-! ## Definitions -/

/-- A definition with dates and options that are read as they are written. -/
structure IsReadable (d : Definition) : Prop where
  bounds : d.HasTextBounds
  options : TableOfOptions d.userFieldOptions

theorem tableOfOptions_optional {ms : Members} {name alternative : String}
    {entries : List (Int × Int)}
    (h : optional ms name alternative integerTable [] = .valid entries) :
    TableOfOptions entries := by
  rcases of_optional h with rfl | ⟨v, hv⟩
  · exact ⟨List.nodup_nil, nofun⟩
  · exact tableOfOptions_of_integerTable hv

theorem textSessionDates_maybe {ms : Members} {name alternative : String}
    {o : Option SessionDates} (h : maybe ms name alternative sessionDates = .valid o) :
    TextSessionDates o := by
  intro s hs
  obtain ⟨v, hv⟩ := of_maybe h s hs
  exact textBounds_sessionDates s hv

/-- What was read is readable, whatever it was read from. -/
theorem isReadable_definition {v : Json} : ∀ d, definition v = .valid d → IsReadable d := by
  unfold definition record object
  split
  · simp only [Checked.forall_seq, Checked.forall_map]
    intros
    constructor
    · constructor
      case sessions =>
        apply textSessionDates_maybe
        assumption
      all_goals
        apply textDate_maybe
        assumption
    · apply tableOfOptions_optional
      assumption
  · rintro d ⟨⟩

theorem isReadable_new (t : ReportType) (s : Session) (stamp : Stamp) (title description : String)
    (author : Int) (platform timezone : String) :
    IsReadable (Definition.new t s stamp title description author platform timezone) where
  bounds := Legacy.hasTextBounds_new ..
  options := by
    have hnone : (Definition.new t s stamp title description author platform
        timezone).userFieldOptions = [] := by
      cases t with
      | _ => rfl
    rw [hnone]
    exact ⟨List.nodup_nil, nofun⟩

theorem IsReadable.definition_eq {d : Definition} (h : IsReadable d) :
    definition (Encode.definition d) = .valid d :=
  definition_of_options (integerTable_of_options h.options) h.bounds

end Decode

/-- What is read from any value is read again once it is written, so writing after reading changes
nothing the second time; and so are new definitions. -/
theorem definition_roundTrips :
    (∀ v d, Decode.definition v = .valid d →
      Decode.definition (Encode.definition d) = .valid d) ∧
    (∀ v w, (Decode.definition v).map Encode.definition = .valid w →
      (Decode.definition w).map Encode.definition = .valid w) ∧
    (∀ t s stamp report d, Definition.default t s stamp report = .valid d →
      Decode.definition (Encode.definition d) = .valid d) := by
  have hread {v : Json} {d : Definition} (h : Decode.definition v = .valid d) :
      Decode.definition (Encode.definition d) = .valid d :=
    (Decode.isReadable_definition d h).definition_eq
  refine ⟨fun v d h => hread h, fun v w h => ?_, fun t s stamp report d h => ?_⟩
  · obtain ⟨d, hd, rfl⟩ := Checked.map_eq_valid_iff.mp h
    rw [hread hd]
    rfl
  · obtain ⟨title, description, author, platform, timezone, rfl⟩ := new_of_default h
    exact (Decode.isReadable_new ..).definition_eq

def loosePost : Json := .obj [
  ("id_report", .str "7"), ("type", .str "Users - Courses"), ("colour", .null),
  ("users", .null), ("courses", .obj [("all", .str "No"), ("course_type", .str " 1 ")]),
  ("enrollmentDate", .obj [("any", .int 0), ("from_", .str "2024-01-31")]),
  ("userAdditionalFieldsFilter",
    .obj [("1", .int 5), ("-0", .bool true), ("+0_01", .str "6.0")])]

theorem definition_roundTrips_loosePost :
    (Decode.definition loosePost).map (·.userFieldOptions) = .valid [(1, 6), (0, 1)] ∧
      (∃ d, Decode.definition loosePost = .valid d ∧
        Decode.definition (Encode.definition d) = .valid d) ∧
      (∃ w, (Decode.definition loosePost).map Encode.definition = .valid w ∧
        (Decode.definition w).map Encode.definition = .valid w) ∧
      ∃ d, Definition.default .surveyAnswers { idUser := 3 } ⟨"8", ""⟩ { title := .str "New" } =
          .valid d ∧
        Decode.definition (Encode.definition d) = .valid d := by
  obtain ⟨d, hd⟩ : ∃ d, Decode.definition loosePost = .valid d := ⟨_, rfl⟩
  obtain ⟨w, hw⟩ : ∃ w, (Decode.definition loosePost).map Encode.definition = .valid w := ⟨_, rfl⟩
  obtain ⟨new, hnew⟩ : ∃ new, Definition.default .surveyAnswers { idUser := 3 } ⟨"8", ""⟩
      { title := .str "New" } = .valid new := ⟨_, rfl⟩
  exact ⟨rfl, ⟨d, hd, definition_roundTrips.1 _ d hd⟩, ⟨w, hw, definition_roundTrips.2.1 _ w hw⟩,
    new, hnew, definition_roundTrips.2.2 _ _ _ _ new hnew⟩

end LearningReports
