import LearningReports.Legacy.Import

/-! # Why an import fails

Every failure of an import sets its report aside, but for three: a value that is asked for a member
and is no object, an infinite number where an integer is read, and calls that nest too deep. All come
from the payload: its text is nested too deep to be read, or the failure can be laid to a value at a
place of its own. -/
namespace LearningReports

/-! ## Failures of a kind -/

section

variable {α β : Type} {p q : Failure → Prop}

/-- A computation that fails in one kind of ways only. -/
def FailsWithin (p : Failure → Prop) (x : Outcome α) : Prop := ∀ e, x = .error e → p e

theorem failsWithin_ok (a : α) : FailsWithin p (.ok a) := by
  intro e he
  cases he

theorem failsWithin_error {e : Failure} (he : p e) :
    FailsWithin p (.error e : Outcome α) := by
  intro e' he'
  cases he'
  exact he

namespace FailsWithin

theorem mono {x : Outcome α} (hx : FailsWithin p x) (hpq : ∀ e, p e → q e) : FailsWithin q x := by
  intro e he
  exact hpq e (hx e he)

theorem bind {x : Outcome α} {f : α → Outcome β} (hx : FailsWithin p x)
    (hf : ∀ a, x = .ok a → FailsWithin p (f a)) : FailsWithin p (x >>= f) := by
  intro e he
  cases x with
  | error e' =>
    cases he
    exact hx e rfl
  | ok a => exact hf a rfl e he

theorem map {x : Outcome α} (hx : FailsWithin p x) (f : α → β) : FailsWithin p (x.map f) := by
  intro e he
  cases x with
  | error e' =>
    cases he
    exact hx e rfl
  | ok a => cases he

theorem mapM {f : α → Outcome β} {as : List α} (hf : ∀ a ∈ as, FailsWithin p (f a)) :
    FailsWithin p (as.mapM f) := by
  induction as with
  | nil => exact failsWithin_ok _
  | cons a as ih =>
    rw [List.mapM_cons]
    refine bind (hf a List.mem_cons_self) fun b _ => ?_
    refine bind (ih fun a' ha' => hf a' (List.mem_cons_of_mem _ ha')) fun bs _ => ?_
    exact failsWithin_ok _

theorem foldlM {f : β → α → Outcome β} {as : List α} (hf : ∀ b, ∀ a ∈ as, FailsWithin p (f b a))
    (b : β) : FailsWithin p (as.foldlM f b) := by
  induction as generalizing b with
  | nil => exact failsWithin_ok _
  | cons a as ih =>
    rw [List.foldlM_cons]
    refine bind (hf b a List.mem_cons_self) fun b' _ => ?_
    exact ih (fun b a' ha' => hf b a' (List.mem_cons_of_mem _ ha')) b'

end FailsWithin

end

/-! ## Loosely typed values -/

namespace Json

def isObject : Json → Bool
  | .obj _ => true
  | _ => false

def isInfinite : Json → Bool
  | .float (.infinite _) => true
  | _ => false

/-- The value at the end of a path of keys. -/
def at? : List String → Json → Option Json
  | [], v => some v
  | key :: path, v => (v.member? key).bind (at? path)

theorem at?_append (path rest : List String) (v : Json) :
    v.at? (path ++ rest) = (v.at? path).bind (at? rest) := by
  induction path generalizing v with
  | nil => rfl
  | cons key path ih =>
    simp only [List.cons_append, at?, Option.bind_assoc]
    exact congrArg _ (funext ih)

theorem at?_snoc {path : List String} {key : String} {v w u : Json} (hw : v.at? path = some w)
    (hu : w.member? key = some u) : v.at? (path ++ [key]) = some u := by
  rw [at?_append, hw, Option.bind_some, at?, hu]
  rfl

theorem isPresent_of_isInfinite {v : Json} (h : v.isInfinite = true) : v.isPresent = true := by
  cases v with
  | float x => cases x <;> first | rfl | cases h
  | _ => cases h

theorem isPresent_of_nesting_pos {v : Json} (h : 0 < v.nesting) : v.isPresent = true := by
  cases v with
  | arr items =>
    cases items with
    | nil => cases h
    | cons v vs => rfl
  | obj ms =>
    cases ms with
    | nil => cases h
    | cons p ms => rfl
  | _ => cases h

variable {p : Failure → Prop}

theorem failsWithin_memberOr {v : Json} (h : v.isObject = false → p .noSuchAttribute) (key : String)
    (default : Json) : FailsWithin p (v.memberOr key default) := by
  refine FailsWithin.map ?_ _
  cases v with
  | obj ms => exact failsWithin_ok _
  | _ => exact failsWithin_error (h rfl)

theorem member?_of_memberOr {v w default : Json} {key : String} (h : v.memberOr key default = .ok w)
    (hw : w ≠ default) : v.member? key = some w := by
  cases v with
  | obj ms =>
    have hvalue : (lookup? key ms).getD default = w := Except.ok.inj h
    cases hfound : lookup? key ms with
    | none =>
      rw [hfound, Option.getD_none] at hvalue
      exact absurd hvalue.symm hw
    | some u =>
      rw [hfound, Option.getD_some] at hvalue
      rw [member?, hfound, hvalue]
  | _ => cases h

theorem member?_of_memberOrNull {v w : Json} {key : String} (h : v.memberOrNull key = .ok w)
    (hw : w.isPresent = true) : v.member? key = some w := by
  refine member?_of_memberOr h ?_
  rintro rfl
  cases hw

/-- A default that holds nothing inside is not what nests deep. -/
theorem member?_of_lt_nesting {n : Nat} {v w default : Json} {key : String}
    (h : v.memberOr key default = .ok w) (hdefault : default.nesting = 0) (hw : n < w.nesting) :
    v.member? key = some w := by
  refine member?_of_memberOr h ?_
  rintro rfl
  omega

theorem eq_of_isPresent {v w default : Json} (hdefault : default.isPresent = false)
    (hw : w.isPresent = true) (h : v.orDefault default = w) : v = w := by
  rw [orDefault] at h
  split at h
  · exact h
  · rw [← h, hdefault] at hw
    cases hw

theorem present_of_orDefault {v : Json} (h : (v.orDefault noMembers).isObject = false) :
    v.isPresent = true ∧ v.isObject = false := by
  rw [orDefault] at h
  split at h
  · exact ⟨‹_›, h⟩
  · cases h

theorem member?_of_orDefault {v w : Json} {key : String}
    (h : (v.orDefault noMembers).member? key = some w) :
    v.isPresent = true ∧ v.member? key = some w := by
  rw [orDefault] at h
  split at h
  · exact ⟨‹_›, h⟩
  · cases h

theorem failsWithin_elementsIfPresent (hp : p .wrongType) (v : Json) :
    FailsWithin p v.elementsIfPresent := by
  rw [elementsIfPresent]
  split
  · cases v with
    | arr _ | str _ | obj _ => exact failsWithin_ok _
    | _ => exact failsWithin_error hp
  · exact failsWithin_ok _

theorem failsWithin_textWithin {room : Nat} {v : Json} (h : room < v.nesting → p .tooDeep) :
    FailsWithin p (v.textWithin room) := by
  rw [textWithin]
  split
  · exact failsWithin_ok _
  · exact failsWithin_error (h (by omega))

theorem failsWithin_toInteger (hp : ∀ e : Failure, e.isSetAside = true → p e) {v : Json}
    (h : v.isInfinite = true → p .integerOfInfinity) : FailsWithin p v.toInteger := by
  cases v with
  | int _ | bool _ => exact failsWithin_ok _
  | null | arr _ | obj _ => exact failsWithin_error (hp _ rfl)
  | float x =>
    cases x with
    | nan => exact failsWithin_error (hp _ rfl)
    | infinite _ => exact failsWithin_error (h rfl)
    | finite _ _ _ => exact failsWithin_ok _
  | str s =>
    rw [toInteger]
    split
    · exact failsWithin_ok _
    · exact failsWithin_error (hp _ rfl)
    · exact failsWithin_error (hp _ rfl)

end Json

namespace Legacy

/-! ## Places of a payload -/

def selectionNames : List String := ["users", "groups", "branches", "courses", "assets", "channels"]

def dateNames : List String := ["start_date", "end_date"]

/-- The places that are asked for members, where there is something. -/
def objectPlaces : List (List String) :=
  [["filters"], ["fields"], ["order"]]
    ++ dateNames.flatMap fun name => [["filters", name], ["filters", name, "data"]]

/-- The values of a payload that an import asks for members. -/
inductive LookedInto (data : Json) : Json → Prop where
  | payload : LookedInto data data
  | member {path : List String} {v : Json} (hpath : path ∈ objectPlaces)
      (hv : data.at? path = some v) (hpresent : v.isPresent = true) : LookedInto data v

/-- The entry stands in a selection of the payload. -/
def IsEntry (data : Json) (name : String) (entry : Json) : Prop :=
  ∃ selection entries, data.member? name = some selection ∧ selection.elements = .ok entries ∧
    entry ∈ entries

/-- The values of a payload that an import reads as integers. -/
inductive Counted (data : Json) : Json → Prop where
  | selected {name : String} {entry : Json} (hname : name ∈ selectionNames)
      (hentry : IsEntry data name entry) : Counted data (idOf entry)
  | days {name : String} {v : Json} (hname : name ∈ dateNames)
      (hv : data.at? ["filters", name, "data", "days_count"] = some v) : Counted data v
  | status {status v : Json} {values : List Json}
      (hstatus : data.at? ["filters", "subscription_status"] = some status)
      (hvalues : statusValues? status = some values) (hv : v ∈ values) : Counted data v

/-- The values of a payload that an import shows as texts, with the depth to which calls may still
nest there. -/
inductive ShownAt (room : Room) (data : Json) : Nat → Json → Prop where
  | selected {name : String} {entry : Json} (hname : name ∈ selectionNames)
      (hentry : IsEntry data name entry) : ShownAt room data room.ids (idOf entry)
  | state {ms : List (String × Json)} (hentry : IsEntry data "branches" (.obj ms)) :
      ShownAt room data room.states (stateOf ms)
  | expiration {v : Json} (hv : data.at? ["filters", "courses_expiring_in"] = some v) :
      ShownAt room data room.expiration v
  | days {name : String} {v : Json} (hname : name ∈ dateNames)
      (hv : data.at? ["filters", name, "data", "days_count"] = some v) :
      ShownAt room data room.days v
  | status {status v : Json} {values : List Json}
      (hstatus : data.at? ["filters", "subscription_status"] = some status)
      (hvalues : statusValues? status = some values) (hv : v ∈ values) :
      ShownAt room data room.statuses v
  | direction {v : Json} (hv : data.at? ["order", "type"] = some v) :
      ShownAt room data room.direction v

/-- A failure that a payload accounts for: it sets the report aside, or one of the values is no
object, or is infinite, or is nested too deep. -/
inductive Blamed (room : Room) (data : Json) : Failure → Prop where
  | setAside {e : Failure} (he : e.isSetAside = true) : Blamed room data e
  | shape {v : Json} (hv : LookedInto data v) (hno : v.isObject = false) :
      Blamed room data .noSuchAttribute
  | number {v : Json} (hv : Counted data v) (hinf : v.isInfinite = true) :
      Blamed room data .integerOfInfinity
  | nesting {n : Nat} {v : Json} (hv : ShownAt room data n v) (hdeep : n < v.nesting) :
      Blamed room data .tooDeep

variable {room : Room} {data : Json}

theorem Blamed.ofSetAside (e : Failure) (he : e.isSetAside = true) : Blamed room data e :=
  .setAside he

theorem failsWithin_shown {n : Nat} {v : Json} (hv : ShownAt room data n v) :
    FailsWithin (Blamed room data) (v.textWithin n) :=
  Json.failsWithin_textWithin (.nesting hv)

theorem failsWithin_payload_member (name : String) :
    FailsWithin (Blamed room data) (data.memberOrNull name) :=
  Json.failsWithin_memberOr (.shape .payload) name .null

theorem failsWithin_section_member {name : String} {v : Json} (hname : [name] ∈ objectPlaces)
    (hv : data.memberOrNull name = .ok v) (key : String) (default : Json) :
    FailsWithin (Blamed room data) ((v.orDefault Json.noMembers).memberOr key default) := by
  refine Json.failsWithin_memberOr (fun hno => ?_) key default
  obtain ⟨hpresent, hno⟩ := Json.present_of_orDefault hno
  have hplace : data.at? ([] ++ [name]) = some v :=
    Json.at?_snoc rfl (Json.member?_of_memberOrNull hv hpresent)
  exact .shape (.member hname hplace hpresent) hno

/-! ## Selections -/

theorem isEntry_of_elementsIfPresent {name : String} {selection : Json}
    (hselection : data.memberOrNull name = .ok selection) {entries : List Json}
    (hentries : selection.elementsIfPresent = .ok entries) {entry : Json}
    (hentry : entry ∈ entries) :
    IsEntry data name entry := by
  rw [Json.elementsIfPresent] at hentries
  split at hentries
  case isTrue hpresent =>
    exact ⟨selection, entries, Json.member?_of_memberOrNull hselection hpresent, hentries, hentry⟩
  case isFalse =>
    cases hentries
    cases hentry

section Entries

variable {name : String} {entry : Json} (hname : name ∈ selectionNames)
  (hentry : IsEntry data name entry)
include hname hentry

theorem failsWithin_id : FailsWithin (Blamed room data) (idOf entry).toInteger :=
  Json.failsWithin_toInteger Blamed.ofSetAside (.number (.selected hname hentry))

theorem failsWithin_item? : FailsWithin (Blamed room data) (item? room.ids entry) := by
  have hblank : FailsWithin (Blamed room data) (isBlankId room.ids (idOf entry)) := by
    have hshown : ShownAt room data room.ids (idOf entry) := .selected hname hentry
    have htext := failsWithin_shown hshown
    rw [isBlankId.eq_def]
    split
    · exact failsWithin_ok _
    · exact .bind htext fun _ _ => failsWithin_ok _
  refine .bind hblank fun blank _ => ?_
  split
  · exact failsWithin_ok _
  · exact .bind (failsWithin_id hname hentry) fun _ _ => failsWithin_ok _

end Entries

theorem failsWithin_branchItem? {entry : Json} (hentry : IsEntry data "branches" entry) :
    FailsWithin (Blamed room data) (branchItem? room.states entry) := by
  have hstate : FailsWithin (Blamed room data) (entryHasDescendants room.states entry) := by
    cases entry with
    | obj ms => exact .bind (failsWithin_shown (.state hentry)) fun _ _ => failsWithin_ok _
    | _ => exact failsWithin_ok _
  refine .bind hstate fun descendants _ => ?_
  split
  · exact failsWithin_ok _
  · exact .bind (failsWithin_id (by decide) hentry) fun _ _ => failsWithin_ok _

theorem failsWithin_itemsOf {name : String} (hname : name ∈ selectionNames) :
    FailsWithin (Blamed room data) (itemsOf room.ids data name) := by
  refine .bind (failsWithin_payload_member name) fun selection hselection => ?_
  refine .bind (Json.failsWithin_elementsIfPresent (.setAside rfl) _) fun entries hentries => ?_
  refine .bind (.mapM fun entry hentry => ?_) fun _ _ => failsWithin_ok _
  exact failsWithin_item? hname (isEntry_of_elementsIfPresent hselection hentries hentry)

theorem failsWithin_branchItems {selection : Json}
    (hselection : data.memberOrNull "branches" = .ok selection) :
    FailsWithin (Blamed room data) (branchItems room.states selection) := by
  refine .bind (Json.failsWithin_elementsIfPresent (.setAside rfl) _) fun entries hentries => ?_
  refine .bind (.mapM fun entry hentry => ?_) fun _ _ => failsWithin_ok _
  exact failsWithin_branchItem? (isEntry_of_elementsIfPresent hselection hentries hentry)

theorem failsWithin_usersFilter (f : UsersFilter) :
    FailsWithin (Blamed room data) (usersFilter room data f) := by
  refine .bind (failsWithin_itemsOf (by decide)) fun users _ => ?_
  refine .bind (failsWithin_itemsOf (by decide)) fun groups _ => ?_
  refine .bind (failsWithin_payload_member "branches") fun selection hselection => ?_
  exact .bind (failsWithin_branchItems hselection) fun _ _ => failsWithin_ok _

theorem failsWithin_coursesFilter (f : CoursesFilter) :
    FailsWithin (Blamed room data) (coursesFilter room data f) :=
  .bind (failsWithin_itemsOf (by decide)) fun _ _ => failsWithin_ok _

theorem failsWithin_assetsFilter : FailsWithin (Blamed room data) (assetsFilter room data) := by
  refine .bind (failsWithin_itemsOf (by decide)) fun assets _ => ?_
  refine .bind (failsWithin_itemsOf (by decide)) fun channels _ => ?_
  exact failsWithin_ok _

theorem failsWithin_changed {α : Type} {p : Failure → Prop} {f : α → Outcome α}
    (hf : ∀ a, FailsWithin p (f a)) (o : Option α) : FailsWithin p (changed f o) := by
  cases o with
  | none => exact failsWithin_ok _
  | some a => exact .map (hf a) _

theorem failsWithin_withSelections (d : Definition) :
    FailsWithin (Blamed room data) (withSelections room data d) := by
  refine .bind (failsWithin_changed failsWithin_usersFilter _) fun users _ => ?_
  refine .bind (failsWithin_changed failsWithin_coursesFilter _) fun courses _ => ?_
  refine .bind (failsWithin_changed (fun _ => failsWithin_assetsFilter) _) fun assets _ => ?_
  exact failsWithin_ok _

/-! ## Dates -/

section

variable {filters : Json} (hfilters : data.member? "filters" = some filters)
  (hpresent : filters.isPresent = true)

include hfilters

theorem at?_filters : data.at? ["filters"] = some filters := by
  rw [Json.at?, hfilters]
  rfl

include hpresent

theorem failsWithin_filter (key : String) (default : Json) :
    FailsWithin (Blamed room data) (filters.memberOr key default) := by
  refine Json.failsWithin_memberOr (fun hno => ?_) key default
  exact .shape (.member (by decide) (at?_filters hfilters) hpresent) hno

theorem failsWithin_expiration (option : DateOption) :
    FailsWithin (Blamed room data) (expiration room.expiration filters option) := by
  refine .bind (failsWithin_filter hfilters hpresent _ _) fun count hcount => ?_
  have htext : FailsWithin (Blamed room data)
      ((count.orDefault (.str "")).textWithin room.expiration) := by
    refine Json.failsWithin_textWithin fun hdeep => ?_
    have hthere := Json.isPresent_of_nesting_pos (Nat.zero_lt_of_lt hdeep)
    rw [← Json.eq_of_isPresent rfl hthere rfl] at hdeep hthere
    have hat : data.at? ["filters", "courses_expiring_in"] = some count :=
      Json.at?_snoc (at?_filters hfilters) (Json.member?_of_memberOrNull hcount hthere)
    exact .nesting (.expiration hat) hdeep
  refine .bind htext fun days _ => ?_
  refine .bind (failsWithin_filter hfilters hpresent _ _) fun before _ => ?_
  split
  · have hdays : FailsWithin (Blamed room data) (Json.toInteger (.str days)) :=
      Json.failsWithin_toInteger Blamed.ofSetAside nofun
    exact .bind hdays fun _ _ => failsWithin_ok _
  · split
    · exact failsWithin_ok _
    · exact failsWithin_ok _

section

variable {name : String} (hname : name ∈ dateNames) {legacy : Json}
  (hlegacy : filters.member? name = some legacy)

omit hpresent
include hlegacy

theorem at?_date : data.at? ["filters", name] = some legacy :=
  Json.at?_snoc (at?_filters hfilters) hlegacy

theorem at?_dateData {v w : Json} {key : String} (hv : legacy.memberOrNull "data" = .ok v)
    (hw : (v.orDefault Json.noMembers).member? key = some w) :
    data.at? ["filters", name, "data", key] = some w := by
  obtain ⟨hpresent, hw⟩ := Json.member?_of_orDefault hw
  have hdata : data.at? ["filters", name, "data"] = some v :=
    Json.at?_snoc (at?_date hfilters hlegacy) (Json.member?_of_memberOrNull hv hpresent)
  exact Json.at?_snoc hdata hw

include hname

theorem failsWithin_dateMember (hpresent : legacy.isPresent = true) (key : String)
    (default : Json) : FailsWithin (Blamed room data) (legacy.memberOr key default) := by
  refine Json.failsWithin_memberOr (fun hno => ?_) key default
  have hplace : ["filters", name] ∈ objectPlaces :=
    List.mem_append_right _ (List.mem_flatMap.mpr ⟨name, hname, by simp⟩)
  exact .shape (.member hplace (at?_date hfilters hlegacy) hpresent) hno

theorem failsWithin_dateData {v : Json} (hv : legacy.memberOrNull "data" = .ok v) (key : String)
    (default : Json) :
    FailsWithin (Blamed room data) ((v.orDefault Json.noMembers).memberOr key default) := by
  refine Json.failsWithin_memberOr (fun hno => ?_) key default
  obtain ⟨hpresent, hno⟩ := Json.present_of_orDefault hno
  have hplace : ["filters", name, "data"] ∈ objectPlaces :=
    List.mem_append_right _ (List.mem_flatMap.mpr ⟨name, hname, by simp⟩)
  have hat : data.at? ["filters", name, "data"] = some v :=
    Json.at?_snoc (at?_date hfilters hlegacy) (Json.member?_of_memberOrNull hv hpresent)
  exact .shape (.member hplace hat hpresent) hno

theorem failsWithin_daysAgo (hpresent : legacy.isPresent = true) (option : DateOption) :
    FailsWithin (Blamed room data) (daysAgo option legacy) := by
  refine .bind (failsWithin_dateMember hfilters hname hlegacy hpresent _ _) fun v hv => ?_
  refine .bind (failsWithin_dateData hfilters hname hlegacy hv _ _) fun count hcount => ?_
  have hdays : FailsWithin (Blamed room data) (count.orDefault (.int 0)).toInteger := by
    refine Json.failsWithin_toInteger Blamed.ofSetAside fun hinf => ?_
    have hthere := Json.isPresent_of_isInfinite hinf
    rw [← Json.eq_of_isPresent rfl hthere rfl] at hinf hthere
    have hmember := Json.member?_of_memberOrNull hcount hthere
    exact .number (.days hname (at?_dateData hfilters hlegacy hv hmember)) hinf
  refine .bind hdays fun days _ => ?_
  refine .bind (failsWithin_dateData hfilters hname hlegacy hv _ _) fun sign _ => ?_
  split
  · exact failsWithin_ok _
  · exact failsWithin_ok _

theorem failsWithin_range (hpresent : legacy.isPresent = true) (option : DateOption) :
    FailsWithin (Blamed room data) (range option legacy) := by
  refine .bind (failsWithin_dateMember hfilters hname hlegacy hpresent _ _) fun v hv => ?_
  refine .bind (failsWithin_dateData hfilters hname hlegacy hv _ _) fun first _ => ?_
  refine .bind (failsWithin_dateData hfilters hname hlegacy hv _ _) fun last _ => ?_
  exact failsWithin_ok _

theorem failsWithin_date (hpresent : legacy.isPresent = true) (option : DateOption) :
    FailsWithin (Blamed room data) (date option legacy room.days) := by
  rw [date, hpresent]
  refine .bind (failsWithin_dateMember hfilters hname hlegacy hpresent _ _) fun type _ => ?_
  split
  · refine .bind (failsWithin_dateMember hfilters hname hlegacy hpresent _ _) fun v hv => ?_
    refine .bind (failsWithin_dateData hfilters hname hlegacy hv _ _) fun count hcount => ?_
    have hisdate : FailsWithin (Blamed room data) (isDate room.days count) := by
      refine .bind (Json.failsWithin_textWithin fun hdeep => ?_) fun _ _ => failsWithin_ok _
      have hmember := Json.member?_of_lt_nesting hcount rfl hdeep
      exact .nesting (.days hname (at?_dateData hfilters hlegacy hv hmember)) hdeep
    refine .bind hisdate fun isDate _ => ?_
    split
    · exact failsWithin_ok _
    · exact failsWithin_daysAgo hfilters hname hlegacy hpresent option
  · exact failsWithin_range hfilters hname hlegacy hpresent option
  · exact failsWithin_ok _

end

theorem failsWithin_dateOf {name : String} (hname : name ∈ dateNames) (option : Option DateOption) :
    FailsWithin (Blamed room data) (dateOf room.days filters name option) := by
  refine .bind (failsWithin_filter hfilters hpresent _ _) fun legacy hlegacy => ?_
  cases option with
  | none => exact failsWithin_ok _
  | some o =>
    cases hthere : legacy.isPresent with
    | false => exact failsWithin_ok _
    | true =>
      have hmember := Json.member?_of_memberOrNull hlegacy hthere
      refine .bind (failsWithin_dateMember hfilters hname hmember hthere _ _) fun type _ => ?_
      split
      · exact failsWithin_ok _
      · refine .bind (failsWithin_date hfilters hname hmember hthere o) fun _ _ => ?_
        exact failsWithin_ok _

theorem failsWithin_withDates (d : Definition) :
    FailsWithin (Blamed room data) (withDates room filters d) := by
  refine .bind (failsWithin_changed (failsWithin_expiration hfilters hpresent) _) fun _ _ => ?_
  have hdate (name : String) (hname : name ∈ dateNames) (option : Option DateOption) :
      FailsWithin (Blamed room data) (dateOf room.days filters name option) :=
    failsWithin_dateOf hfilters hpresent hname option
  dsimp only
  split
  · refine .bind (hdate "start_date" (by decide) _) fun enrollmentDate _ => ?_
    refine .bind (hdate "end_date" (by decide) _) fun completionDate _ => ?_
    exact failsWithin_ok _
  · exact .bind (hdate "start_date" (by decide) _) fun _ _ => failsWithin_ok _
  · exact .bind (hdate "start_date" (by decide) _) fun _ _ => failsWithin_ok _
  · exact failsWithin_ok _
  · exact failsWithin_ok _
  · exact failsWithin_ok _

theorem failsWithin_withConditions (d : Definition) :
    FailsWithin (Blamed room data) (withConditions filters d) := by
  refine .bind (failsWithin_filter hfilters hpresent _ _) fun status _ => ?_
  split
  · exact failsWithin_ok _
  · split
    · exact failsWithin_ok _
    · exact failsWithin_ok _

/-! ## Enrollment status -/

omit hpresent in
theorem failsWithin_statusFilter {status : Json}
    (hstatus : filters.memberOrNull "subscription_status" = .ok status) (f : EnrollmentFilter) :
    FailsWithin (Blamed room data) (statusFilter room.statuses status f) := by
  rw [statusFilter]
  split
  · exact failsWithin_ok _
  · rename_i values hvalues
    have hne : status ≠ .null := by
      rintro rfl
      cases hvalues
    have hat : data.at? ["filters", "subscription_status"] = some status :=
      Json.at?_snoc (at?_filters hfilters) (Json.member?_of_memberOr hstatus hne)
    have hcodes : FailsWithin (Blamed room data) (values.mapM (statusCode room.statuses)) := by
      refine .mapM fun v hv => ?_
      refine .bind (failsWithin_shown (.status hat hvalues hv)) fun name _ => ?_
      split
      · exact failsWithin_ok _
      · exact Json.failsWithin_toInteger Blamed.ofSetAside (.number (.status hat hvalues hv))
    exact .bind hcodes fun _ _ => failsWithin_ok _

theorem failsWithin_withStatus (d : Definition) :
    FailsWithin (Blamed room data) (withStatus room.statuses filters d) := by
  rw [withStatus]
  split
  · exact failsWithin_ok _
  · refine .bind (failsWithin_filter hfilters hpresent _ _) fun status hstatus => ?_
    exact .bind (failsWithin_statusFilter hfilters hstatus _) fun _ _ => failsWithin_ok _

end

/-! ## Fields and order -/

theorem failsWithin_sectionFields {fields : Json} (hfields : data.memberOrNull "fields" = .ok fields)
    (name : String) (map : FieldMap) :
    FailsWithin (Blamed room data) (sectionFields (fields.orDefault Json.noMembers) name map) := by
  refine .bind (failsWithin_section_member (by decide) hfields _ _) fun v _ => ?_
  have hkeys : FailsWithin (Blamed room data) (keysOf v) := by
    rw [keysOf.eq_def]
    split
    · exact failsWithin_ok _
    · exact Json.failsWithin_elementsIfPresent (.setAside rfl) _
  refine .bind hkeys fun keys _ => ?_
  have hfound : FailsWithin (Blamed room data) (keys.mapM (fieldOf map)) := by
    refine .mapM fun key _ => ?_
    rw [fieldOf.eq_def]
    split
    · exact failsWithin_ok _
    · split
      · exact failsWithin_ok _
      · exact failsWithin_error (.setAside rfl)
  exact .bind hfound fun _ _ => failsWithin_ok _

theorem failsWithin_withFields (map : List (String × FieldMap)) (d : Definition) :
    FailsWithin (Blamed room data) (withFields room.direction data map d) := by
  refine .bind (failsWithin_payload_member "fields") fun fields hfields => ?_
  refine .bind (failsWithin_payload_member "order") fun order horder => ?_
  refine .bind (failsWithin_section_member (by decide) horder _ _) fun orderBy _ => ?_
  refine .bind (failsWithin_section_member (by decide) horder _ _) fun type htype => ?_
  have hdirection : FailsWithin (Blamed room data) (direction room.direction type) := by
    refine .bind (Json.failsWithin_textWithin fun hdeep => ?_) fun _ _ => failsWithin_ok _
    obtain ⟨hthere, hmember⟩ :=
      Json.member?_of_orDefault (Json.member?_of_lt_nesting htype rfl hdeep)
    have hat : data.at? ([] ++ ["order"]) = some order :=
      Json.at?_snoc rfl (Json.member?_of_memberOrNull horder hthere)
    exact .nesting (.direction (Json.at?_snoc hat hmember)) hdeep
  refine .bind hdirection fun direction _ => ?_
  have hall : FailsWithin (Blamed room data) (allFields (fields.orDefault Json.noMembers) map) := by
    refine .bind (.mapM fun m _ => ?_) fun _ _ => failsWithin_ok _
    exact failsWithin_sectionFields hfields m.1 m.2
  refine .bind hall fun selected _ => ?_
  dsimp only
  split
  · exact failsWithin_ok _
  · exact failsWithin_ok _

/-! ## Reports -/

theorem failsWithin_withFilters (map : List (String × FieldMap)) (d : Definition) :
    FailsWithin (Blamed room data) (withFilters room data map d) := by
  refine .bind (failsWithin_withSelections d) fun d _ => ?_
  refine .bind (failsWithin_payload_member "filters") fun filters hmember => ?_
  cases hpresent : filters.isPresent with
  | false => exact failsWithin_error (.setAside rfl)
  | true =>
    have hfilters := Json.member?_of_memberOrNull hmember hpresent
    refine .bind (failsWithin_withDates hfilters hpresent d) fun d _ => ?_
    refine .bind (failsWithin_withConditions hfilters hpresent d) fun d _ => ?_
    refine .bind (failsWithin_withStatus hfilters hpresent d) fun d _ => ?_
    exact failsWithin_withFields map d

/-- What stands outside the payload never does more than set a report aside. -/
theorem failsWithin_toInteger_str (s : String) :
    FailsWithin (fun e => e.isSetAside = true) (Json.toInteger (.str s)) :=
  Json.failsWithin_toInteger (fun _ he => he) nofun

theorem failsWithin_author (r : Report) :
    FailsWithin (fun e => e.isSetAside = true) (author r) := by
  rw [author]
  split
  · exact failsWithin_ok _
  · exact failsWithin_toInteger_str _

theorem failsWithin_visibility (r : Report) (rules : List VisibilityRule) :
    FailsWithin (fun e => e.isSetAside = true) (visibility r rules) := by
  have hrule (v : Visibility) (rule : VisibilityRule) :
      FailsWithin (fun e => e.isSetAside = true) (addRule v rule) := by
    refine .bind (failsWithin_toInteger_str _) fun id _ => ?_
    split
    · exact failsWithin_ok _
    · split
      · exact failsWithin_ok _
      · split
        · exact failsWithin_ok _
        · exact failsWithin_ok _
  rw [visibility]
  split
  · exact .foldlM (fun v rule _ => hrule v rule) _
  · exact failsWithin_ok _

theorem failsWithin_withHead (r : Report) (platform : String) (rules : List VisibilityRule)
    (d : Definition) : FailsWithin (fun e => e.isSetAside = true) (withHead r platform rules d) := by
  refine .bind (failsWithin_visibility r rules) fun v _ => ?_
  split
  · exact failsWithin_ok _
  · exact failsWithin_ok _

/-- A written text opens more brackets inside one another than its reader has room for. -/
def IsOverdeep (room : Nat) (d : FilterData) : Prop :=
  ∃ s, d = .text s ∧ Json.read (written s) room = .error .tooDeep

theorem failsWithin_payload (n : Nat) (d : FilterData) :
    FailsWithin (fun e => e.isSetAside = true ∨ e = .tooDeep ∧ IsOverdeep n d) (payload d n) := by
  cases d with
  | members ms => exact failsWithin_ok _
  | text s =>
    rw [payload]
    split
    · exact failsWithin_ok _
    · exact failsWithin_error (.inl rfl)
    · exact failsWithin_error (.inl rfl)
    · next hdeep => exact failsWithin_error (.inr ⟨rfl, s, rfl, hdeep⟩)

/-- Why the import of a report fails: the report is set aside, or its text is nested too deep, or
its payload accounts for the failure. -/
def ReportBlamed (room : Room) (r : Report) (e : Failure) : Prop :=
  e.isSetAside = true ∨ (e = .tooDeep ∧ IsOverdeep room.reading r.data) ∨
    ∃ data, payload r.data room.reading = .ok data ∧ Blamed room data e

theorem failsWithin_parse (s : Session) (stamp : Stamp) (t : ReportType) (r : Report)
    (platform : String) (rules : List VisibilityRule) (room : Room) :
    FailsWithin (ReportBlamed room r) (parse s stamp t r platform rules room) := by
  have hsections : FailsWithin (ReportBlamed room r) (sections t) := by
    cases t with
    | surveyAnswers | planStatistics => exact failsWithin_error (.inl rfl)
    | _ => exact failsWithin_ok _
  refine .bind hsections fun map _ => ?_
  refine .bind ((failsWithin_author r).mono fun _ => .inl) fun author _ => ?_
  have hnew (c : Checked Definition) : FailsWithin (ReportBlamed room r) c.outcome := by
    cases c with
    | valid d => exact failsWithin_ok _
    | invalid issues => exact failsWithin_error (.inl rfl)
  refine .bind (hnew _) fun new _ => ?_
  refine .bind ((failsWithin_withHead r platform rules new).mono fun _ => .inl) fun headed _ => ?_
  refine .bind ((failsWithin_payload room.reading r.data).mono fun e he => he.imp id .inl)
    fun data hdata => ?_
  exact (failsWithin_withFilters map headed).mono fun e he => .inr (.inr ⟨data, hdata, he⟩)

end Legacy
end LearningReports
