import LearningReports.Proofs.EnrollmentStatuses
import LearningReports.Proofs.ImportedDefinitions

/-! # Imported status filters

A legacy report lists statuses by names and codes. Its import switches on the flags of the statuses
listed, and a report with these flags keeps the rows whose codes are listed: on the way through the
tables only codes of no status are lost. -/
namespace LearningReports.Legacy

open EnrollmentColumns (Marks isMarked liveMark)
open Sql (Expr Valuation)

/-- A value of a legacy report stands for a code: that of the status it names, or, if it names none,
the integer it denotes. -/
inductive StandsFor (v : Json) : Int → Prop
  | name {s : EnrollmentStatus} (h : (v.asText, s) ∈ statusNames) : StandsFor v s.code
  | number {n : Int} (hunnamed : ∀ s, (v.asText, s) ∉ statusNames) (h : v.toInteger = .ok n) :
      StandsFor v n

def listedValues : Json → List Json
  | .arr items => items
  | v => [v]

def Lists (legacy : Json) (code : Int) : Prop := ∃ v ∈ listedValues legacy, StandsFor v code

theorem lookup?_statusNames {name : String} {s : EnrollmentStatus} (h : (name, s) ∈ statusNames) :
    lookup? name statusNames = some s := by
  have hnames : ∀ p ∈ statusNames, lookup? p.1 statusNames = some p.2 := by decide
  exact hnames _ h

theorem statusCode_eq_ok_iff {room : Nat} {v : Json} {code : Int} :
    statusCode room v = .ok code ↔ v.nesting ≤ room ∧ StandsFor v code := by
  constructor
  · intro h
    obtain ⟨text, htext, h⟩ := Returns.of_bind (m := Outcome) h
    obtain ⟨hroom, rfl⟩ := Json.textWithin_eq_ok_iff.mp htext
    refine ⟨hroom, ?_⟩
    cases hname : lookup? v.asText statusNames with
    | some s =>
      rw [hname] at h
      cases h
      exact .name (mem_of_lookup? hname)
    | none =>
      rw [hname] at h
      refine .number (fun s hs => ?_) h
      rw [lookup?_statusNames hs] at hname
      cases hname
  · rintro ⟨hroom, h⟩
    rw [statusCode, Json.textWithin_eq_ok_iff.mpr ⟨hroom, rfl⟩]
    dsimp only [bind, Except.bind]
    cases h with
    | name hs =>
      rw [lookup?_statusNames hs]
      rfl
    | number hunnamed h =>
      cases hname : lookup? v.asText statusNames with
      | some s => exact absurd (mem_of_lookup? hname) (hunnamed s)
      | none => exact h

/-! ## Flags of codes -/

section Flags

variable {f : EnrollmentFilter} {s : EnrollmentStatus}

theorem picks_switchOn (t : EnrollmentStatus) :
    (switchOn f t).picks s = true ↔ f.picks s = true ∨ s = t := by
  cases t <;> cases s <;> simp [switchOn, EnrollmentFilter.picks]

theorem picks_switchOnCode (code : Int) :
    (switchOnCode f code).picks s = true ↔ f.picks s = true ∨ s.code = code := by
  have hknown : statuses.find? (·.code == code) = EnrollmentStatus.ofCode? code := rfl
  rw [switchOnCode, hknown, ← EnrollmentStatus.ofCode?_eq_some_iff]
  cases EnrollmentStatus.ofCode? code with
  | some t => rw [Option.some.injEq, eq_comm (a := t), picks_switchOn]
  | none => simp

theorem picks_foldl_switchOnCode (codes : List Int) :
    (codes.foldl switchOnCode f).picks s = true ↔ f.picks s = true ∨ s.code ∈ codes := by
  induction codes generalizing f with
  | nil => simp
  | cons code codes ih =>
    rw [List.foldl_cons, ih, picks_switchOnCode, List.mem_cons, or_assoc]

theorem picks_switchedOff : (switchedOff f).picks s = false := by
  cases s <;> rfl

end Flags

theorem mem_of_mapM_statusCode {room : Nat} {values : List Json} {codes : List Int}
    (h : values.mapM (statusCode room) = .ok codes) {code : Int} :
    code ∈ codes ↔ ∃ v ∈ values, StandsFor v code := by
  have hall := Outcome.mapM_eq_ok_iff.mp h
  clear h
  induction hall with
  | nil => simp
  | @cons v c _ _ hc _ ih =>
    have hroom := (statusCode_eq_ok_iff.mp hc).1
    have hhead : code = c ↔ StandsFor v code := by
      rw [← and_iff_right (b := StandsFor v code) hroom, ← statusCode_eq_ok_iff, hc]
      simp [eq_comm]
    simp [hhead, ih]

theorem statusValues?_of_lists {legacy : Json} {s : EnrollmentStatus}
    (h : Lists legacy s.code) : statusValues? legacy = some (listedValues legacy) := by
  obtain ⟨v, hv, hstands⟩ := h
  have hcode := statusCode_eq_ok_iff.mpr ⟨Nat.le_refl _, hstands⟩
  unfold statusValues?
  split
  · cases List.mem_singleton.mp hv
    cases hcode
  · cases List.mem_singleton.mp hv
    cases hcode
  · cases List.mem_singleton.mp hv
    cases hcode
  · rfl
  · rename_i hlist
    cases legacy with
    | arr items => exact (hlist items rfl).elim
    | _ => rfl

/-- Of a legacy status that lists a known one, the import makes the filter that picks what is
listed. -/
theorem picks_of_statusFilter {room : Nat} {legacy : Json} {f f' : EnrollmentFilter}
    (h : statusFilter room legacy f = .ok f')
    (hknown : ∃ s : EnrollmentStatus, Lists legacy s.code) :
    f'.flags.any id = true ∧ ∀ s, f'.picks s = true ↔ Lists legacy s.code := by
  obtain ⟨known, hknown⟩ := hknown
  rw [statusFilter, statusValues?_of_lists hknown] at h
  obtain ⟨codes, hcodes, h⟩ := Returns.of_bind (m := Outcome) h
  have hpicks (s : EnrollmentStatus) :
      (codes.foldl switchOnCode (switchedOff f)).picks s = true ↔ Lists legacy s.code := by
    rw [picks_foldl_switchOnCode, picks_switchedOff, mem_of_mapM_statusCode hcodes]
    simp [Lists]
  have hany : (codes.foldl switchOnCode (switchedOff f)).flags.any id = true :=
    EnrollmentFilter.any_iff_exists_picks.mpr ⟨known, (hpicks known).mpr hknown⟩
  dsimp only at h
  rw [if_pos hany] at h
  cases h
  exact ⟨hany, hpicks⟩

/-- A filter keeps the rows whose codes a legacy status lists. -/
structure KeepsListed (legacy : Json) (f : EnrollmentFilter) : Prop where
  archived : ∀ {v : Valuation} {status : Expr} {s : EnrollmentStatus},
    v.value status = .int s.code →
    (v.KeepsAll (EnrollmentColumns.statusFilter (some f) status none) ↔ Lists legacy s.code)
  live : ∀ {v : Valuation} {status waiting courseType : Expr} {s : EnrollmentStatus} {n : Int}
    {type : String}, v.value status = .int s.code → v.value waiting = .int n →
    v.value courseType = .text type → ¬(n = 1 ∧ type = "elearning") →
    (v.KeepsAll (EnrollmentColumns.statusFilter (some f) status (liveMark waiting courseType)) ↔
      Lists legacy s.code)

theorem keepsListed_of_picks {legacy : Json} {f : EnrollmentFilter} (hany : f.flags.any id = true)
    (hpicks : ∀ s, f.picks s = true ↔ Lists legacy s.code) : KeepsListed legacy f where
  archived {v status s} hcode := by
    have hmark : Marks v none false := rfl
    rw [EnrollmentColumns.keepsAll_statusFilter_iff_of_unmarked hany hcode hmark, hpicks]
  live {v status waiting courseType s n type} hcode hwaiting htype hunmarked := by
    have hmark : Marks v (liveMark waiting courseType) false := by
      have hmarks := EnrollmentColumns.marks_liveMark hwaiting htype
      rwa [show isMarked n type = false by simpa [isMarked] using hunmarked] at hmarks
    rw [EnrollmentColumns.keepsAll_statusFilter_iff_of_unmarked hany hcode hmark, hpicks]

/-! ## Imported reports -/

variable {r : Report} {s : Session} {stamp : Stamp} {t : ReportType} {platform : String}
  {rules : List VisibilityRule} {room : Room} {data filters : Json} {d d' : Definition}

theorem enrollment_withStatus {room : Nat} (h : withStatus room filters d = .ok d') :
    (d'.enrollment.isSome = d.enrollment.isSome) ∧ ∀ f', d'.enrollment = some f' → ∃ f,
      statusFilter room ((filters.member? "subscription_status").getD .null) f = .ok f' := by
  rw [withStatus] at h
  split at h
  · rename_i hnone
    cases h
    simp [hnone]
  · rename_i f hsome
    obtain ⟨legacy, hlegacy, h⟩ := Returns.of_bind (m := Outcome) h
    obtain ⟨picked, hpicked, h⟩ := Returns.of_bind (m := Outcome) h
    cases h
    rw [Json.eq_of_memberOr hlegacy, hsome]
    refine ⟨rfl, fun f' hf' => ⟨f, ?_⟩⟩
    cases hf'
    exact hpicked

/-- The filter of an imported definition comes from the legacy status; some types have none. -/
theorem enrollment_of_parse (h : parse s stamp t r platform rules room = .ok d) :
    ∃ data filters, payload r.data room.reading = .ok data ∧ data.member? "filters" = some filters ∧
      (d.enrollment.isSome = true ↔ t = .usersCourses ∨ t = .classroomSessions) ∧
      ∀ f', d.enrollment = some f' → ∃ f,
        statusFilter room.statuses ((filters.member? "subscription_status").getD .null) f =
          .ok f' := by
  obtain ⟨map, data, title, description, author, home, timezone, headed, hmap, hdata, hheaded,
    h⟩ := steps_of_parse h
  obtain ⟨filters, d₁, d₂, d₃, d₄, hfilters, hselections, hdates, hconditions, hstatus, hfields⟩ :=
    steps_of_withFilters h
  obtain ⟨_, _, _, _, _, _, rfl⟩ := eq_of_withHead hheaded
  obtain ⟨_, _, _, rfl⟩ := eq_of_withSelections hselections
  obtain ⟨_, _, _, _, rfl⟩ := eq_of_withDates hdates
  obtain ⟨_, rfl⟩ := eq_of_withConditions hconditions
  obtain ⟨hsome, hpicked⟩ := enrollment_withStatus hstatus
  obtain ⟨_, _, rfl⟩ := eq_of_withFields hfields
  refine ⟨data, filters, hdata, hfilters, ?_, hpicked⟩
  rw [hsome]
  cases t <;> simp [Definition.new, Definition.withDefaultFilters]

/-- An imported report keeps the rows whose codes its legacy status lists. -/
theorem parse_keeps_status (h : parse s stamp t r platform rules room = .ok d) :
    ∃ data filters, payload r.data room.reading = .ok data ∧ data.member? "filters" = some filters ∧
      (d.enrollment.isSome = true ↔ t = .usersCourses ∨ t = .classroomSessions) ∧
      ∀ f legacy, d.enrollment = some f →
        filters.member? "subscription_status" = some legacy →
        (∃ known : EnrollmentStatus, Lists legacy known.code) → KeepsListed legacy f := by
  obtain ⟨data, filters, hdata, hfilters, hsome, hpicked⟩ := enrollment_of_parse h
  refine ⟨data, filters, hdata, hfilters, hsome, fun f legacy hf hlegacy hknown => ?_⟩
  obtain ⟨f₀, hfilter⟩ := hpicked f hf
  rw [hlegacy] at hfilter
  obtain ⟨hany, hpicks⟩ := picks_of_statusFilter hfilter hknown
  exact keepsListed_of_picks hany hpicks

def mixedStatuses : Json := .arr [.str "completed", .int 0, .str "1", .int 99, .str "completed"]

def onStatuses (legacy : Json) : Report :=
  { idFilter := "5", typeId := "1", author := ""
    data := .members [("filters", .obj [("subscription_status", legacy)])] }

theorem parse_keeps_status_mixed :
    ∃ d f, parse { idUser := 1 } ⟨"", ""⟩ .usersCourses (onStatuses mixedStatuses) "" [] = .ok d ∧
      d.enrollment = some f ∧ Lists mixedStatuses EnrollmentStatus.completed.code ∧
      KeepsListed mixedStatuses f := by
  obtain ⟨d, hd⟩ : ∃ d, parse { idUser := 1 } ⟨"", ""⟩ .usersCourses (onStatuses mixedStatuses) ""
      [] = .ok d := ⟨_, rfl⟩
  have hknown : Lists mixedStatuses EnrollmentStatus.completed.code :=
    ⟨.str "completed", .head _, .name (by decide)⟩
  obtain ⟨data, filters, hdata, hfilters, hsome, hkeeps⟩ := parse_keeps_status hd
  obtain ⟨f, hf⟩ := Option.isSome_iff_exists.mp (hsome.mpr (.inl rfl))
  cases hdata
  cases hfilters
  exact ⟨d, f, hd, hf, hknown, hkeeps f mixedStatuses hf rfl ⟨_, hknown⟩⟩

end LearningReports.Legacy
