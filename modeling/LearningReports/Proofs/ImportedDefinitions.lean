import LearningReports.Proofs.DefinitionRoundTrip
import LearningReports.Proofs.ImportFailures
import LearningReports.Proofs.Returns

/-! # Imported definitions

An imported definition takes everything from checked values, but for the bounds of its dates: they
are copied from the payload as they stand. So it is written and read again exactly when the copied
bounds are texts. -/
namespace LearningReports

def Definition.dates (d : Definition) : Definition :=
  { idReport := "", type := d.type, enrollmentDate := d.enrollmentDate
    completionDate := d.completionDate, surveyCompletionDate := d.surveyCompletionDate
    archivingDate := d.archivingDate, courseExpirationDate := d.courseExpirationDate
    publishedDate := d.publishedDate, sessionDates := d.sessionDates
    userFieldOptions := d.userFieldOptions }

theorem Definition.hasTextBounds_dates (d : Definition) :
    d.dates.HasTextBounds ↔ d.HasTextBounds :=
  ⟨fun ⟨he, hc, hs, ha, hx, hp, hd⟩ => ⟨he, hc, hs, ha, hx, hp, hd⟩,
    fun ⟨he, hc, hs, ha, hx, hp, hd⟩ => ⟨he, hc, hs, ha, hx, hp, hd⟩⟩

namespace Json

def isText (v : Json) : Bool := v.text?.isSome

theorem eq_of_memberOr {v w default : Json} {key : String} (h : v.memberOr key default = .ok w) :
    (v.member? key).getD default = w := by
  cases v with
  | obj ms => exact Except.ok.inj h
  | _ => cases h

theorem member?_of_absent {v : Json} (h : v.isPresent = false) (key : String) :
    v.member? key = none := by
  cases v with
  | obj ms =>
    cases ms with
    | nil => rfl
    | cons m ms => cases h
  | _ => rfl

theorem member?_orDefault (v : Json) (key : String) :
    (v.orDefault noMembers).member? key = v.member? key := by
  rw [orDefault]
  split
  · rfl
  · rename_i hno
    rw [member?_of_absent (eq_false_of_ne_true hno)]
    rfl

theorem bind_present? (o : Option Json) : o.bind present? = (o.getD .null).present? := by
  cases o with
  | none => rfl
  | some v => rfl

theorem member?_getD_null (o : Option Json) (key : String) :
    (o.getD .null).member? key = o.bind (·.member? key) := by
  cases o with
  | none => rfl
  | some v => rfl

end Json

namespace Legacy

/-! ## Copied bounds -/

/-- The bounds of a range, where a filter on a date is one. A missing bound is empty. -/
def rangeBounds (legacy : Json) : List Json :=
  match (legacy.member? "type").getD .null with
  | .str "range" => ["from", "to"].map fun key =>
      (((legacy.member? "data").bind (·.member? key))).getD (.str "")
  | _ => []

/-- The day before which courses expire, unless the filters say in how many days they do. -/
def expirationBounds (filters : Json) : List Json :=
  let days := (((filters.member? "courses_expiring_in").getD .null).orDefault (.str "")).asText
  if !days.isEmpty && !days.toList.contains '/' then []
  else ((filters.member? "courses_expiring_before").bind Json.present?).toList

def rangeNames : ReportType → List String
  | .usersCourses => ["start_date", "end_date"]
  | .classroomSessions | .assetStatistics => ["start_date"]
  | .enrollmentTime | .surveyAnswers | .planStatistics => []

/-- The values that the import of a type copies from legacy filters into bounds of dates. -/
def copiedBounds (t : ReportType) (filters : Json) : List Json :=
  (if t = .assetStatistics then [] else expirationBounds filters)
    ++ (rangeNames t).flatMap fun name => ((filters.member? name).toList).flatMap rangeBounds

/-! ## Dates -/

variable {room : Nat} {filters legacy : Json} {o o' : DateOption}

theorem hasTextBounds_range (h : range o legacy = .ok o') :
    o'.HasTextBounds ↔
      ∀ v ∈ ["from", "to"].map fun key =>
        (((legacy.member? "data").bind (·.member? key))).getD (.str ""), v.isText = true := by
  obtain ⟨v, hv, h⟩ := Returns.of_bind (m := Outcome) h
  obtain ⟨first, hfirst, h⟩ := Returns.of_bind (m := Outcome) h
  obtain ⟨last, hlast, h⟩ := Returns.of_bind (m := Outcome) h
  cases h
  have hv := Json.eq_of_memberOr hv
  have hfirst := Json.eq_of_memberOr hfirst
  have hlast := Json.eq_of_memberOr hlast
  rw [Json.member?_orDefault, ← hv, Json.member?_getD_null] at hfirst hlast
  simp [DateOption.HasTextBounds, hfirst, hlast, Json.isText]

theorem hasTextBounds_daysAgo (ho : o.HasTextBounds) (h : daysAgo o legacy = .ok o') :
    o'.HasTextBounds := by
  obtain ⟨v, -, h⟩ := Returns.of_bind (m := Outcome) h
  obtain ⟨count, -, h⟩ := Returns.of_bind (m := Outcome) h
  obtain ⟨days, -, h⟩ := Returns.of_bind (m := Outcome) h
  obtain ⟨sign, -, h⟩ := Returns.of_bind (m := Outcome) h
  split at h
  · cases h
    exact ho
  · cases h
    exact ho

/-- A date keeps text bounds exactly when the range that it is read from has some. -/
theorem hasTextBounds_date (ho : o.HasTextBounds) (h : date o legacy room = .ok o') :
    o'.HasTextBounds ↔ ∀ v ∈ rangeBounds legacy, v.isText = true := by
  rw [date] at h
  cases hpresent : legacy.isPresent with
  | false =>
    rw [hpresent] at h
    cases h
    simp [rangeBounds, Json.member?_of_absent hpresent, ho]
  | true =>
    rw [hpresent] at h
    obtain ⟨type, htype, h⟩ := Returns.of_bind (m := Outcome) h
    rw [rangeBounds, Json.eq_of_memberOr htype]
    split at h
    · obtain ⟨v, -, h⟩ := Returns.of_bind (m := Outcome) h
      obtain ⟨count, -, h⟩ := Returns.of_bind (m := Outcome) h
      obtain ⟨isDate, -, h⟩ := Returns.of_bind (m := Outcome) h
      split at h
      · cases h
        simp [ho]
      · simp [hasTextBounds_daysAgo ho h]
    · exact hasTextBounds_range h
    · cases h
      simp [ho]

theorem textDate_dateOf {name : String} {x : Option DateOption} (ho : o.HasTextBounds)
    (h : dateOf room filters name (some o) = .ok x) :
    Decode.TextDate x ↔
      ∀ v ∈ ((filters.member? name).toList).flatMap rangeBounds, v.isText = true := by
  obtain ⟨legacy, hlegacy, h⟩ := Returns.of_bind (m := Outcome) h
  have hlegacy := Json.eq_of_memberOr hlegacy
  have hbounds : ((filters.member? name).toList).flatMap rangeBounds = rangeBounds legacy := by
    rw [← hlegacy]
    cases filters.member? name with
    | none => rfl
    | some v => simp
  rw [hbounds]
  dsimp only at h
  split at h
  · rename_i habsent
    cases h
    have hno : legacy.isPresent = false := by simpa using habsent
    simp [rangeBounds, Json.member?_of_absent hno, Decode.TextDate, ho]
  · obtain ⟨type, htype, h⟩ := Returns.of_bind (m := Outcome) h
    split at h
    · cases h
      simp [rangeBounds, Json.eq_of_memberOr htype, Decode.TextDate, ho]
    · obtain ⟨o', hdate, h⟩ := Returns.of_bind (m := Outcome) h
      cases h
      rw [← hasTextBounds_date ho hdate]
      simp [Decode.TextDate]

theorem textDate_expiration {x : Option DateOption} (ho : o.HasTextBounds)
    (h : changed (expiration room filters) (some o) = .ok x) :
    Decode.TextDate x ↔ ∀ v ∈ expirationBounds filters, v.isText = true := by
  have hmap : (expiration room filters o).map some = .ok x := h
  cases hoption : expiration room filters o with
  | error e =>
    rw [hoption] at hmap
    cases hmap
  | ok o' =>
    rw [hoption] at hmap
    cases hmap
    rw [expiration] at hoption
    obtain ⟨count, hcount, hoption⟩ := Returns.of_bind (m := Outcome) hoption
    obtain ⟨days, hdays, hoption⟩ := Returns.of_bind (m := Outcome) hoption
    obtain ⟨before, hbefore, hoption⟩ := Returns.of_bind (m := Outcome) hoption
    have hcount := Json.eq_of_memberOr hcount
    have hdays := (Json.textWithin_eq_ok_iff.mp hdays).2
    have hbefore := Json.eq_of_memberOr hbefore
    have hoption' : Decode.TextDate (some o') ↔ o'.HasTextBounds := by simp [Decode.TextDate]
    rw [hoption', expirationBounds, hcount, hdays, Json.bind_present?, hbefore, Json.present?]
    split at hoption
    · rename_i hin
      obtain ⟨n, -, hoption⟩ := Returns.of_bind (m := Outcome) hoption
      cases hoption
      simp only [if_pos hin]
      simp [DateOption.HasTextBounds, ho.1, ho.2]
    · rename_i hin
      simp only [if_neg hin]
      split at hoption
      · rename_i hbefore
        cases hoption
        simp [DateOption.HasTextBounds, hbefore, epoch, Json.isText, Json.text?]
      · rename_i hbefore
        cases hoption
        simp [hbefore, ho]

/-! ## Definitions -/

/-- Only four of the dates of a definition can come from a payload. -/
theorem hasTextBounds_iff {d : Definition} (hsurvey : Decode.TextDate d.surveyCompletionDate)
    (harchiving : Decode.TextDate d.archivingDate)
    (hsessions : Decode.TextSessionDates d.sessionDates) :
    d.HasTextBounds ↔ Decode.TextDate d.courseExpirationDate ∧ Decode.TextDate d.enrollmentDate ∧
      Decode.TextDate d.completionDate ∧ Decode.TextDate d.publishedDate := by
  constructor
  · intro h
    exact ⟨h.courseExpiration, h.enrollment, h.completion, h.published⟩
  · rintro ⟨hx, he, hc, hp⟩
    exact ⟨he, hc, hsurvey, harchiving, hx, hp, hsessions⟩

theorem textDate_none : Decode.TextDate none := nofun

theorem hasTextBounds_default : ({} : DateOption).HasTextBounds := ⟨rfl, rfl⟩

theorem textDate_default : Decode.TextDate (some {}) := by
  intro x hx
  cases hx
  exact hasTextBounds_default

section

variable (t : ReportType) (s : Session) (stamp : Stamp) (title description : String) (author : Int)
  (platform timezone : String)

theorem hasTextBounds_new :
    (Definition.new t s stamp title description author platform timezone).HasTextBounds := by
  have hdate (o : Option DateOption) (ho : o = none ∨ o = some {}) : Decode.TextDate o := by
    rcases ho with rfl | rfl
    · exact textDate_none
    · exact textDate_default
  have hsessions (o : Option SessionDates) (ho : o = none ∨ o = some {}) :
      Decode.TextSessionDates o := by
    rintro x hx
    rcases ho with rfl | rfl
    · cases hx
    · cases hx
      exact ⟨hasTextBounds_default, hasTextBounds_default⟩
  rw [Definition.new]
  cases s.platform.hasArchive <;> cases t <;>
    exact ⟨hdate _ (by simp [Definition.withDefaultFilters]),
      hdate _ (by simp [Definition.withDefaultFilters]),
      hdate _ (by simp [Definition.withDefaultFilters]),
      hdate _ (by simp [Definition.withDefaultFilters]),
      hdate _ (by simp [Definition.withDefaultFilters]),
      hdate _ (by simp [Definition.withDefaultFilters]),
      hsessions _ (by simp [Definition.withDefaultFilters])⟩

variable {t s stamp title description author platform timezone} {d d' : Definition}
  {room : Room}

theorem hasTextBounds_withDates
    (hnew : d.dates = (Definition.new t s stamp title description author platform timezone).dates)
    {map : List (String × FieldMap)} (ht : sections t = .ok map)
    (h : withDates room filters d = .ok d') :
    d'.HasTextBounds ↔ ∀ v ∈ copiedBounds t filters, v.isText = true := by
  have htext : d.HasTextBounds := by
    rw [← d.hasTextBounds_dates, hnew, Definition.hasTextBounds_dates]
    exact hasTextBounds_new ..
  have hdate {name : String} {o x : Option DateOption} (ho : o = some {})
      (h : dateOf room.days filters name o = .ok x) : Decode.TextDate x ↔
        ∀ v ∈ ((filters.member? name).toList).flatMap rangeBounds, v.isText = true := by
    rw [ho] at h
    exact textDate_dateOf hasTextBounds_default h
  obtain ⟨x, hexpiration, h⟩ := Returns.of_bind (m := Outcome) h
  have hx (ho : d.courseExpirationDate = some {}) :
      Decode.TextDate x ↔ ∀ v ∈ expirationBounds filters, v.isText = true := by
    rw [ho] at hexpiration
    exact textDate_expiration hasTextBounds_default hexpiration
  have htype := congrArg Definition.type hnew
  have hexpires := congrArg Definition.courseExpirationDate hnew
  have henrolled := congrArg Definition.enrollmentDate hnew
  have hcompleted := congrArg Definition.completionDate hnew
  cases t with
  | usersCourses =>
    simp only [show d.type = .usersCourses from htype] at h
    obtain ⟨e, he, h⟩ := Returns.of_bind (m := Outcome) h
    obtain ⟨c, hc, h⟩ := Returns.of_bind (m := Outcome) h
    cases h
    rw [hasTextBounds_iff (by exact htext.surveyCompletion) (by exact htext.archiving)
      (by exact htext.sessions)]
    rw [hx hexpires, hdate henrolled he, hdate hcompleted hc]
    simp [copiedBounds, rangeNames, or_imp, forall_and, htext.published]
  | classroomSessions =>
    simp only [show d.type = .classroomSessions from htype] at h
    obtain ⟨e, he, h⟩ := Returns.of_bind (m := Outcome) h
    cases h
    rw [hasTextBounds_iff (by exact htext.surveyCompletion) (by exact htext.archiving)
      (by exact htext.sessions)]
    rw [hx hexpires, hdate henrolled he]
    simp [copiedBounds, rangeNames, or_imp, forall_and, htext.published, htext.completion]
  | enrollmentTime =>
    simp only [show d.type = .enrollmentTime from htype] at h
    cases h
    rw [hasTextBounds_iff (by exact htext.surveyCompletion) (by exact htext.archiving)
      (by exact htext.sessions)]
    rw [hx hexpires]
    simp [copiedBounds, rangeNames, htext.published, htext.completion, htext.enrollment]
  | assetStatistics =>
    simp only [show d.type = .assetStatistics from htype] at h
    obtain ⟨p, hp, h⟩ := Returns.of_bind (m := Outcome) h
    cases h
    have hnone : x = none := by
      rw [show d.courseExpirationDate = none from hexpires] at hexpiration
      cases hexpiration
      rfl
    rw [hasTextBounds_iff (by exact htext.surveyCompletion) (by exact htext.archiving)
      (by exact htext.sessions)]
    rw [hdate (congrArg Definition.publishedDate hnew) hp, hnone]
    simp [copiedBounds, rangeNames, htext.completion, htext.enrollment, textDate_none]
  | surveyAnswers => cases ht
  | planStatistics => cases ht

/-! ## Steps that leave the dates alone -/

variable {r : Report} {rules : List VisibilityRule} {data : Json}

theorem eq_of_withHead (h : withHead r platform rules d = .ok d') :
    ∃ title standard imported visibility created edited, d' = { d with
      title := title, platform := platform, standard := standard, importedFrom := imported
      visibility := visibility, creationDate := created, lastEdit := edited } := by
  obtain ⟨v, -, h⟩ := Returns.of_bind (m := Outcome) h
  split at h
  · cases h
    exact ⟨_, _, _, _, _, _, rfl⟩
  · cases h
    exact ⟨_, _, _, _, _, _, rfl⟩

theorem eq_of_withSelections (h : withSelections room data d = .ok d') :
    ∃ users courses assets, d' = { d with
      users := users, courses := courses, assets := assets } := by
  obtain ⟨users, -, h⟩ := Returns.of_bind (m := Outcome) h
  obtain ⟨courses, -, h⟩ := Returns.of_bind (m := Outcome) h
  obtain ⟨assets, -, h⟩ := Returns.of_bind (m := Outcome) h
  cases h
  exact ⟨users, courses, assets, rfl⟩

theorem eq_of_withConditions (h : withConditions filters d = .ok d') :
    ∃ conditions, d' = { d with conditions := conditions } := by
  obtain ⟨status, -, h⟩ := Returns.of_bind (m := Outcome) h
  split at h
  · cases h
    exact ⟨_, rfl⟩
  · split at h
    · cases h
      exact ⟨_, rfl⟩
    · cases h
      exact ⟨_, rfl⟩

theorem eq_of_withStatus (h : withStatus room.statuses filters d = .ok d') :
    ∃ enrollment, d' = { d with enrollment := enrollment } := by
  rw [withStatus] at h
  split at h
  · cases h
    exact ⟨_, rfl⟩
  · obtain ⟨status, -, h⟩ := Returns.of_bind (m := Outcome) h
    obtain ⟨picked, -, h⟩ := Returns.of_bind (m := Outcome) h
    cases h
    exact ⟨_, rfl⟩

theorem eq_of_withFields {map : List (String × FieldMap)}
    (h : withFields room.direction data map d = .ok d') :
    ∃ fields sorting, d' = { d with fields := fields, sorting := sorting } := by
  obtain ⟨fields, -, h⟩ := Returns.of_bind (m := Outcome) h
  obtain ⟨order, -, h⟩ := Returns.of_bind (m := Outcome) h
  obtain ⟨orderBy, -, h⟩ := Returns.of_bind (m := Outcome) h
  obtain ⟨type, -, h⟩ := Returns.of_bind (m := Outcome) h
  obtain ⟨direction, -, h⟩ := Returns.of_bind (m := Outcome) h
  obtain ⟨selected, -, h⟩ := Returns.of_bind (m := Outcome) h
  dsimp only at h
  split at h
  · cases h
    exact ⟨_, d.sorting, rfl⟩
  · cases h
    exact ⟨_, _, rfl⟩

theorem dates_withHead (h : withHead r platform rules d = .ok d') : d'.dates = d.dates := by
  obtain ⟨_, _, _, _, _, _, rfl⟩ := eq_of_withHead h
  rfl

theorem dates_withSelections (h : withSelections room data d = .ok d') : d'.dates = d.dates := by
  obtain ⟨_, _, _, rfl⟩ := eq_of_withSelections h
  rfl

theorem dates_withConditions (h : withConditions filters d = .ok d') : d'.dates = d.dates := by
  obtain ⟨_, rfl⟩ := eq_of_withConditions h
  rfl

theorem dates_withStatus (h : withStatus room.statuses filters d = .ok d') :
    d'.dates = d.dates := by
  obtain ⟨_, rfl⟩ := eq_of_withStatus h
  rfl

theorem dates_withFields {map : List (String × FieldMap)}
    (h : withFields room.direction data map d = .ok d') :
    d'.dates = d.dates := by
  obtain ⟨_, _, rfl⟩ := eq_of_withFields h
  rfl

theorem steps_of_withFilters {map : List (String × FieldMap)}
    (h : withFilters room data map d = .ok d') :
    ∃ filters d₁ d₂ d₃ d₄, data.member? "filters" = some filters ∧
      withSelections room data d = .ok d₁ ∧ withDates room filters d₁ = .ok d₂ ∧
      withConditions filters d₂ = .ok d₃ ∧ withStatus room.statuses filters d₃ = .ok d₄ ∧
      withFields room.direction data map d₄ = .ok d' := by
  obtain ⟨d₁, hselections, h⟩ := Returns.of_bind (m := Outcome) h
  obtain ⟨filters, hfilters, h⟩ := Returns.of_bind (m := Outcome) h
  cases hpresent : filters.isPresent with
  | false =>
    simp only [hpresent] at h
    cases h
  | true =>
    simp only [hpresent] at h
    obtain ⟨d₂, hdates, h⟩ := Returns.of_bind (m := Outcome) h
    obtain ⟨d₃, hconditions, h⟩ := Returns.of_bind (m := Outcome) h
    obtain ⟨d₄, hstatus, h⟩ := Returns.of_bind (m := Outcome) h
    exact ⟨filters, d₁, d₂, d₃, d₄, Json.member?_of_memberOrNull hfilters hpresent,
      hselections, hdates, hconditions, hstatus, h⟩

theorem dates_withFilters {map : List (String × FieldMap)}
    (h : withFilters room data map d = .ok d') :
    ∃ filters d₁ d₂, data.member? "filters" = some filters ∧ d₁.dates = d.dates ∧
      withDates room filters d₁ = .ok d₂ ∧ d'.dates = d₂.dates := by
  obtain ⟨filters, d₁, d₂, d₃, d₄, hfilters, hselections, hdates, hconditions, hstatus, hfields⟩ :=
    steps_of_withFilters h
  refine ⟨filters, d₁, d₂, hfilters, dates_withSelections hselections, hdates, ?_⟩
  rw [dates_withFields hfields, dates_withStatus hstatus, dates_withConditions hconditions]

theorem eq_of_withDates (h : withDates room filters d = .ok d') :
    ∃ expiration enrolled completed published, d' = { d with
      courseExpirationDate := expiration, enrollmentDate := enrolled
      completionDate := completed, publishedDate := published } := by
  obtain ⟨x, -, h⟩ := Returns.of_bind (m := Outcome) h
  dsimp only at h
  split at h
  · obtain ⟨e, -, h⟩ := Returns.of_bind (m := Outcome) h
    obtain ⟨c, -, h⟩ := Returns.of_bind (m := Outcome) h
    cases h
    exact ⟨x, e, c, _, rfl⟩
  · obtain ⟨e, -, h⟩ := Returns.of_bind (m := Outcome) h
    cases h
    exact ⟨x, e, _, _, rfl⟩
  · obtain ⟨p, -, h⟩ := Returns.of_bind (m := Outcome) h
    cases h
    exact ⟨x, _, _, p, rfl⟩
  · cases h
    exact ⟨x, _, _, _, rfl⟩
  · cases h
    exact ⟨x, _, _, _, rfl⟩
  · cases h
    exact ⟨x, _, _, _, rfl⟩

theorem userFieldOptions_withDates (h : withDates room filters d = .ok d') :
    d'.userFieldOptions = d.userFieldOptions := by
  obtain ⟨_, _, _, _, rfl⟩ := eq_of_withDates h
  rfl

/-- An import takes its steps from a new definition of the type. -/
theorem steps_of_parse (h : parse s stamp t r platform rules room = .ok d) :
    ∃ map data title description author home timezone headed, sections t = .ok map ∧
      payload r.data room.reading = .ok data ∧
      withHead r platform rules
        (Definition.new t s stamp title description author home timezone) = .ok headed ∧
      withFilters room data map headed = .ok d := by
  obtain ⟨map, hmap, h⟩ := Returns.of_bind (m := Outcome) h
  obtain ⟨author, -, h⟩ := Returns.of_bind (m := Outcome) h
  obtain ⟨new, hnew, h⟩ := Returns.of_bind (m := Outcome) h
  obtain ⟨title, description, author, home, timezone, rfl⟩ :=
    new_of_default (Checked.outcome_eq_ok_iff.mp hnew)
  obtain ⟨headed, hheaded, h⟩ := Returns.of_bind (m := Outcome) h
  obtain ⟨data, hdata, h⟩ := Returns.of_bind (m := Outcome) h
  exact ⟨map, data, title, description, author, home, timezone, headed, hmap, hdata, hheaded, h⟩

theorem hasTextBounds_parse (h : parse s stamp t r platform rules room = .ok d) :
    ∃ data filters, payload r.data room.reading = .ok data ∧ data.member? "filters" = some filters ∧
      d.userFieldOptions = [] ∧
      (d.HasTextBounds ↔ ∀ v ∈ copiedBounds t filters, v.isText = true) := by
  obtain ⟨map, data, title, description, author, home, timezone, headed, hmap, hdata, hheaded,
    h⟩ := steps_of_parse h
  obtain ⟨filters, d₁, d₂, hfilters, hd₁, hdates, hd⟩ := dates_withFilters h
  rw [dates_withHead hheaded] at hd₁
  refine ⟨data, filters, hdata, hfilters, ?_, ?_⟩
  · have hnone : d₁.dates.userFieldOptions = [] := by
      rw [hd₁]
      cases t <;> rfl
    have htable := userFieldOptions_withDates hdates
    change d₂.dates.userFieldOptions = d₁.dates.userFieldOptions at htable
    rw [← hd, hnone] at htable
    exact htable
  · rw [← d.hasTextBounds_dates, hd, d₂.hasTextBounds_dates]
    exact hasTextBounds_withDates hd₁ hmap hdates

end

/-- An imported definition is valid as it is written exactly when every bound that the import copied
is a text, and then it is read again unchanged. -/
theorem parse_decodes_iff {s : Session} {stamp : Stamp} {t : ReportType} {r : Report}
    {platform : String} {rules : List VisibilityRule} {room : Room} {d : Definition}
    (h : parse s stamp t r platform rules room = .ok d) :
    ∃ data filters, payload r.data room.reading = .ok data ∧ data.member? "filters" = some filters ∧
      ((Decode.definition (Encode.definition d)).isValid = true ↔
        ∀ v ∈ copiedBounds t filters, v.isText = true) ∧
      (Decode.definition (Encode.definition d) = .valid d ↔
        ∀ v ∈ copiedBounds t filters, v.isText = true) := by
  obtain ⟨data, filters, hdata, hfilters, htable, hbounds⟩ := hasTextBounds_parse h
  refine ⟨data, filters, hdata, hfilters, ?_, ?_⟩
  · rw [Decode.isValid_definition htable, hbounds]
  · rw [Decode.definition_eq_valid_iff htable, hbounds]

def ofYear (first : Json) : Report :=
  { idFilter := "9", typeId := "1", author := ""
    data := .members [("filters", .obj [("start_date", .obj [("type", .str "range"),
      ("data", .obj [("from", first), ("to", .str "2023-12-31")])])])] }

theorem parse_decodes_iff_ofYear :
    ∃ d, parse { idUser := 1 } ⟨"", ""⟩ .usersCourses (ofYear (.str "2023-01-01")) "" [] = .ok d ∧
      ∃ data filters, payload (ofYear (.str "2023-01-01")).data = .ok data ∧
        data.member? "filters" = some filters ∧
        ((Decode.definition (Encode.definition d)).isValid = true ↔
          ∀ v ∈ copiedBounds .usersCourses filters, v.isText = true) ∧
        (Decode.definition (Encode.definition d) = .valid d ↔
          ∀ v ∈ copiedBounds .usersCourses filters, v.isText = true) := by
  obtain ⟨d, hd⟩ : ∃ d, parse { idUser := 1 } ⟨"", ""⟩ .usersCourses (ofYear (.str "2023-01-01"))
      "" [] = .ok d := ⟨_, rfl⟩
  exact ⟨d, hd, parse_decodes_iff hd⟩

/-- A bound that is written as a number is imported, and the definition is then refused. -/
theorem parse_ofYear_number :
    ∃ d, parse { idUser := 1 } ⟨"", ""⟩ .usersCourses (ofYear (.int 2023)) "" [] = .ok d ∧
      (Decode.definition (Encode.definition d)).isValid = false :=
  ⟨_, rfl, rfl⟩

end Legacy
end LearningReports
