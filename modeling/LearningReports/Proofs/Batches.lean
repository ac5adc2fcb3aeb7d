import LearningReports.Proofs.ImportFailures
import LearningReports.Proofs.NestedTexts

/-! # Batches of legacy reports

A report ends its whole batch exactly when its import asks a value for a member that is no object,
reads an infinite number, or goes down too deep. A batch that is not ended so comes out complete and
in order, and each report comes out as it would alone. -/
namespace LearningReports.Legacy

section

variable (s : Session) (stamp : Stamp) (q : ImportRequest) (room : Room)

/-- What becomes of a report of a batch: a definition, or nothing. -/
def conversion? (r : Report) : Option Definition :=
  (typeOf? r).bind fun t => (parse s stamp t r (platformOf s q.platform) q.rules room).toOption

/-- The report ends every batch that comes to it. -/
def Sinks (r : Report) : Prop :=
  ∃ t, typeOf? r = some t ∧ ∃ e,
    parse s stamp t r (platformOf s q.platform) q.rules room = .error e ∧
      (e = .noSuchAttribute ∨ e = .integerOfInfinity ∨ e = .tooDeep)

/-- Some value that an import asks for a member is no object, some number that it counts by is
infinite, or some value that it shows as a text nests too deep for that. -/
inductive Ruinous (data : Json) : Prop where
  | shape {v : Json} (hv : LookedInto data v) (hno : v.isObject = false) : Ruinous data
  | number {v : Json} (hv : Counted data v) (hinf : v.isInfinite = true) : Ruinous data
  | nesting {n : Nat} {v : Json} (hv : ShownAt room data n v) (hdeep : n < v.nesting) : Ruinous data

def ImportResult.add (done : ImportResult) (r : Report) : Option Definition → ImportResult
  | some d => { done with parsed := done.parsed ++ [d] }
  | none => { done with notParsed := done.notParsed ++ [r] }

/-- The reports stand in the result once each and in order, converted or as they were. -/
def settled (rs : List Report) : ImportResult :=
  { parsed := rs.filterMap (conversion? s stamp q room)
    notParsed := rs.filter fun r => (conversion? s stamp q room r).isNone }

variable {s stamp q room}

/-! ## One report -/

theorem Blamed.ruinous {data : Json} {e : Failure} (h : Blamed room data e)
    (hno : e.isSetAside = false) :
    (e = .noSuchAttribute ∨ e = .integerOfInfinity ∨ e = .tooDeep) ∧ Ruinous room data := by
  cases h with
  | setAside he =>
    rw [he] at hno
    cases hno
  | shape hv hobject => exact ⟨.inl rfl, .shape hv hobject⟩
  | number hv hinf => exact ⟨.inr (.inl rfl), .number hv hinf⟩
  | nesting hv hdeep => exact ⟨.inr (.inr rfl), .nesting hv hdeep⟩

theorem ReportBlamed.ruinous {r : Report} {e : Failure} (h : ReportBlamed room r e)
    (hno : e.isSetAside = false) :
    (e = .noSuchAttribute ∨ e = .integerOfInfinity ∨ e = .tooDeep) ∧
      (IsOverdeep room.reading r.data ∨
        ∃ data, payload r.data room.reading = .ok data ∧ Ruinous room data) := by
  rcases h with haside | ⟨he, hdeep⟩ | ⟨data, hdata, hblamed⟩
  · rw [haside] at hno
    cases hno
  · exact ⟨.inr (.inr he), .inl hdeep⟩
  · obtain ⟨hkind, hruin⟩ := hblamed.ruinous hno
    exact ⟨hkind, .inr ⟨data, hdata, hruin⟩⟩

theorem isSetAside_of_ending {e : Failure}
    (h : e = .noSuchAttribute ∨ e = .integerOfInfinity ∨ e = .tooDeep) : e.isSetAside = false := by
  rcases h with rfl | rfl | rfl <;> rfl

theorem Sinks.ruinous {r : Report} (h : Sinks s stamp q room r) :
    IsOverdeep room.reading r.data ∨
      ∃ data, payload r.data room.reading = .ok data ∧ Ruinous room data := by
  obtain ⟨t, -, e, he, hkind⟩ := h
  exact ((failsWithin_parse s stamp t r _ _ room e he).ruinous (isSetAside_of_ending hkind)).2

theorem sinks_of_parse {r : Report} {t : ReportType} {e : Failure} (ht : typeOf? r = some t)
    (he : parse s stamp t r (platformOf s q.platform) q.rules room = .error e)
    (hno : e.isSetAside = false) : Sinks s stamp q room r :=
  ⟨t, ht, e, he, ((failsWithin_parse s stamp t r _ _ room e he).ruinous hno).1⟩

theorem importOne_of_not_sinks {r : Report} (h : ¬Sinks s stamp q room r) (done : ImportResult) :
    importOne s stamp q.rules (platformOf s q.platform) room done r =
      .ok (done.add r (conversion? s stamp q room r)) := by
  rw [importOne, conversion?]
  cases ht : typeOf? r with
  | none => rfl
  | some t =>
    simp only [Option.bind_some]
    cases hparse : parse s stamp t r (platformOf s q.platform) q.rules room with
    | ok d => rfl
    | error e =>
      cases hno : e.isSetAside with
      | true => simp only [hno, if_true]; rfl
      | false => exact absurd (sinks_of_parse ht hparse hno) h

theorem importOne_of_sinks {r : Report} (h : Sinks s stamp q room r) (done : ImportResult) :
    ∃ e, importOne s stamp q.rules (platformOf s q.platform) room done r = .error e := by
  obtain ⟨t, ht, e, he, hkind⟩ := h
  refine ⟨e, ?_⟩
  rw [importOne, ht]
  simp only [he, isSetAside_of_ending hkind]
  rfl

/-! ## Short texts -/

/-- The least room that any place has. -/
def Room.least (room : Room) : Nat :=
  min room.reading (min room.ids (min room.states (min room.expiration
    (min room.days (min room.statuses room.direction)))))

theorem nesting_at?_le {path : List String} {v w : Json} (h : v.at? path = some w) :
    w.nesting ≤ v.nesting := by
  induction path generalizing v with
  | nil => cases h; exact Nat.le_refl _
  | cons key path ih =>
    obtain ⟨u, hu, hw⟩ := Option.bind_eq_some_iff.mp h
    exact Nat.le_trans (ih hw) (Nat.le_of_lt (Json.nesting_lt_of_member? hu))

theorem IsEntry.nesting_le {data entry : Json} {name : String} (h : IsEntry data name entry) :
    entry.nesting ≤ data.nesting := by
  obtain ⟨selection, entries, hselection, hentries, hentry⟩ := h
  exact Nat.le_trans (Json.nesting_le_of_elements hentries hentry)
    (Nat.le_of_lt (Json.nesting_lt_of_member? hselection))

theorem nesting_getD_le {ms : List (String × Json)} {default : Json} (first second : String)
    (hdefault : default.nesting = 0) :
    (((lookup? first ms).orElse fun _ => lookup? second ms).getD default).nesting ≤
      (Json.obj ms).nesting := by
  have hmember {key : String} {v : Json} (h : lookup? key ms = some v) :
      v.nesting ≤ (Json.obj ms).nesting := Nat.le_of_lt (Json.nesting_lt_of_member? h)
  cases hfirst : lookup? first ms with
  | some v => exact hmember hfirst
  | none =>
    cases hsecond : lookup? second ms with
    | some v => exact hmember hsecond
    | none => exact hdefault ▸ Nat.zero_le _

theorem nesting_idOf_le (entry : Json) : (idOf entry).nesting ≤ entry.nesting := by
  cases entry with
  | obj ms => exact nesting_getD_le _ _ rfl
  | _ => exact Nat.le_refl _

theorem nesting_value_le {status v : Json} {values : List Json}
    (hvalues : statusValues? status = some values) (hv : v ∈ values) :
    v.nesting ≤ status.nesting := by
  rw [statusValues?.eq_def] at hvalues
  split at hvalues
  any_goals cases hvalues
  · exact Nat.le_of_lt (Json.nesting_arr_le_iff.mp (Nat.le_refl _) v hv)
  · cases List.mem_singleton.mp hv
    exact Nat.le_refl _

/-- What an import shows as a text stands in the payload, at a place that has room of its own. -/
theorem ShownAt.bounds {data v : Json} {n : Nat} (h : ShownAt room data n v) :
    v.nesting ≤ data.nesting ∧ room.least ≤ n := by
  unfold Room.least
  cases h with
  | selected hname hentry =>
    exact ⟨Nat.le_trans (nesting_idOf_le _) hentry.nesting_le, by omega⟩
  | state hentry => exact ⟨Nat.le_trans (nesting_getD_le _ _ rfl) hentry.nesting_le, by omega⟩
  | expiration hv => exact ⟨nesting_at?_le hv, by omega⟩
  | days hname hv => exact ⟨nesting_at?_le hv, by omega⟩
  | status hstatus hvalues hv =>
    exact ⟨Nat.le_trans (nesting_value_le hvalues hv) (nesting_at?_le hstatus), by omega⟩
  | direction hv => exact ⟨nesting_at?_le hv, by omega⟩

/-- A text with fewer characters than any place has room ends a batch by a shape or a number only.
-/
theorem Sinks.of_short_text {r : Report} {text : String} (h : Sinks s stamp q room r)
    (htext : r.data = .text text) (hshort : (written text).toList.length < room.least) :
    ∃ data, payload r.data room.reading = .ok data ∧
      ((∃ v, LookedInto data v ∧ v.isObject = false) ∨
        ∃ v, Counted data v ∧ v.isInfinite = true) := by
  have hreading : (written text).toList.length + 1 ≤ room.reading := by
    rw [Room.least] at hshort
    omega
  have henough := Json.read_ne_tooDeep (Nat.lt_succ_self (written text).toList.length)
  have hread := Json.read_of_le hreading henough
  rcases h.ruinous with ⟨text', htext', hdeep⟩ | ⟨data, hdata, hruin⟩
  · cases htext.symm.trans htext'
    exact absurd (hread.symm.trans hdeep) henough
  · refine ⟨data, hdata, ?_⟩
    cases hruin with
    | shape hv hno => exact .inl ⟨_, hv, hno⟩
    | number hv hinf => exact .inr ⟨_, hv, hinf⟩
    | nesting hv hdeep =>
      have hdata : Json.read (written text) room.reading = .ok data := by
        rw [htext, payload] at hdata
        split at hdata
        · next hok => rwa [Except.ok.inj hdata] at hok
        all_goals cases hdata
      have hle := Json.nesting_le_of_read (hread.symm.trans hdata)
      obtain ⟨hwithin, hroom⟩ := hv.bounds
      omega

/-! ## A batch -/

theorem foldlM_importOne {rs : List Report} (h : ∀ r ∈ rs, ¬Sinks s stamp q room r)
    (done : ImportResult) :
    rs.foldlM (importOne s stamp q.rules (platformOf s q.platform) room) done =
      .ok { parsed := done.parsed ++ (settled s stamp q room rs).parsed
            notParsed := done.notParsed ++ (settled s stamp q room rs).notParsed } := by
  induction rs generalizing done with
  | nil => simp [settled]; rfl
  | cons r rs ih =>
    have hr := importOne_of_not_sinks (h r List.mem_cons_self) done
    rw [List.foldlM_cons, hr]
    change rs.foldlM _ (done.add r (conversion? s stamp q room r)) = _
    rw [ih fun r' hr' => h r' (List.mem_cons_of_mem _ hr')]
    cases hc : conversion? s stamp q room r with
    | none => simp [settled, ImportResult.add, hc]
    | some d => simp [settled, ImportResult.add, hc]

theorem foldlM_importOne_error {rs : List Report} {r : Report} (hr : r ∈ rs)
    (h : Sinks s stamp q room r) (done : ImportResult) :
    ∃ e, rs.foldlM (importOne s stamp q.rules (platformOf s q.platform) room) done = .error e := by
  induction rs generalizing done with
  | nil => cases hr
  | cons r' rs ih =>
    rw [List.foldlM_cons]
    cases hfirst : importOne s stamp q.rules (platformOf s q.platform) room done r' with
    | error e => exact ⟨e, rfl⟩
    | ok done' =>
      rcases List.mem_cons.mp hr with rfl | hr
      · obtain ⟨e, he⟩ := importOne_of_sinks h done
        rw [hfirst] at he
        cases he
      · exact ih hr done'

theorem importMany_of_not_sinks (h : ∀ r ∈ q.reports, ¬Sinks s stamp q room r) :
    importMany s stamp q room = .ok (settled s stamp q room q.reports) := by
  rw [importMany, foldlM_importOne h]
  rfl

theorem importMany_alone {r : Report} (h : ¬Sinks s stamp q room r) :
    importMany s stamp { q with reports := [r] } room = .ok (settled s stamp q room [r]) := by
  have hone : ∀ r' ∈ ({ q with reports := [r] } : ImportRequest).reports,
      ¬Sinks s stamp { q with reports := [r] } room r' := by
    intro r' hr'
    cases List.mem_singleton.mp hr'
    exact h
  exact importMany_of_not_sinks hone

end

/-- A batch is imported exactly when none of its reports sinks it, and only a text that is nested
too deep or a ruinous payload can. An imported batch has every report once and in order, as a
definition or unchanged, and each as it comes out of a batch of its own. -/
theorem importMany_settled (s : Session) (stamp : Stamp) (q : ImportRequest) (room : Room) :
    ((∃ result, importMany s stamp q room = .ok result) ↔
      ∀ r ∈ q.reports, ¬Sinks s stamp q room r) ∧
    (∀ r, Sinks s stamp q room r → IsOverdeep room.reading r.data ∨
      ∃ data, payload r.data room.reading = .ok data ∧ Ruinous room data) ∧
    ∀ result, importMany s stamp q room = .ok result →
      result = settled s stamp q room q.reports ∧
      ∀ r ∈ q.reports,
        importMany s stamp { q with reports := [r] } room = .ok (settled s stamp q room [r]) := by
  have hsinks (result : ImportResult) (hresult : importMany s stamp q room = .ok result) :
      ∀ r ∈ q.reports, ¬Sinks s stamp q room r := by
    intro r hr hsink
    obtain ⟨e, he⟩ := foldlM_importOne_error hr hsink {}
    rw [importMany, he] at hresult
    cases hresult
  refine ⟨⟨?_, fun h => ⟨_, importMany_of_not_sinks h⟩⟩, fun r => Sinks.ruinous, ?_⟩
  · rintro ⟨result, hresult⟩
    exact hsinks result hresult
  · intro result hresult
    have h := hsinks result hresult
    refine ⟨?_, fun r hr => importMany_alone (h r hr)⟩
    rw [importMany_of_not_sinks h] at hresult
    exact (Except.ok.inj hresult).symm

def wellKept : Report :=
  { idFilter := "7", typeId := "1", author := ""
    data := .members [("filters", .obj [("a", .int 1)])] }

def keptAsList : Report := { idFilter := "8", typeId := "1", author := "", data := .text "[]" }

/-- A list of filters ends the batch, and a report that reads well is lost with it. -/
theorem importMany_keptAsList :
    (∃ d, importMany { idUser := 1 } ⟨"", ""⟩ { reports := [wellKept] } = .ok { parsed := [d] }) ∧
      importMany { idUser := 1 } ⟨"", ""⟩ { reports := [wellKept, keptAsList] } =
        .error .noSuchAttribute :=
  ⟨⟨_, rfl⟩, rfl⟩

/-- Brackets that there is no room for end a batch too. -/
example : importMany { idUser := 1 } ⟨"", ""⟩
    { reports := [{ idFilter := "8", typeId := "1", author := "", data := .text "[[]]" }] }
    { reading := 1 } = .error .tooDeep := rfl

end LearningReports.Legacy
