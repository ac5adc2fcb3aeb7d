import LearningReports.Proofs.Sides
import LearningReports.Proofs.Valuations
import LearningReports.Report.UsersCourses

/-! # Statuses of enrollments, filtered and shown

A filter picks statuses by flags and keeps the rows whose status it picks. A report shows the status
of each row in words. Both treat a marked row, one on the waiting list of an e-learning course, as
waiting whatever its code, but only the filter does so where the code says that the enrollment is
still to be confirmed: on such rows a filter that picks one of the two statuses without the other
disagrees with what is shown, and on no others. -/
namespace LearningReports

open Sql (Expr Valuation)

/-- The filter picks a status: its flag is on. Subscribed enrollments have two flags. -/
def EnrollmentFilter.picks (f : EnrollmentFilter) : EnrollmentStatus → Bool
  | .waitingList => f.waitingList
  | .toConfirm => f.toConfirm
  | .subscribed => f.notStarted || f.subscribed
  | .inProgress => f.inProgress
  | .completed => f.completed
  | .suspended => f.suspended
  | .overbooking => f.overbooking

theorem EnrollmentFilter.picks_of_all {f : EnrollmentFilter} (h : f.flags.all id = true)
    (s : EnrollmentStatus) : f.picks s = true := by
  simp only [flags, List.all_cons, id_eq, Bool.and_eq_true] at h
  cases s <;> simp [picks, h]

theorem EnrollmentFilter.any_iff_exists_picks {f : EnrollmentFilter} :
    f.flags.any id = true ↔ ∃ s, f.picks s = true := by
  simp only [flags, List.any_cons, List.any_nil, id_eq, Bool.or_eq_true, Bool.false_eq_true,
    or_false]
  constructor
  · rintro (h | h | h | h | h | h | h | h)
    · exact ⟨.completed, h⟩
    · exact ⟨.inProgress, h⟩
    · exact ⟨.subscribed, by simp [picks, h]⟩
    · exact ⟨.waitingList, h⟩
    · exact ⟨.suspended, h⟩
    · exact ⟨.toConfirm, h⟩
    · exact ⟨.subscribed, by simp [picks, h]⟩
    · exact ⟨.overbooking, h⟩
  · rintro ⟨s, h⟩
    cases s with
    | subscribed =>
      rcases Bool.or_eq_true_iff.mp h with h | h
      · simp [h]
      · simp [h]
    | _ =>
      simp only [picks] at h
      simp [h]

namespace EnrollmentStatus

def ofCode? (code : Int) : Option EnrollmentStatus :=
  [waitingList, toConfirm, subscribed, inProgress, completed, suspended, overbooking].find?
    (·.code = code)

theorem ofCode?_eq_some_iff {code : Int} {s : EnrollmentStatus} :
    ofCode? code = some s ↔ s.code = code := by
  constructor
  · intro h
    simpa using List.find?_some h
  · rintro rfl
    cases s <;> rfl

/-- The status that a filter takes a row for. -/
def filtered? (code : Int) (marked : Bool) : Option EnrollmentStatus :=
  if marked then some waitingList else ofCode? code

/-- The status that a row is shown with. -/
def shown? (code : Int) (marked : Bool) : Option EnrollmentStatus :=
  if marked ∧ code ≠ toConfirm.code then some waitingList else ofCode? code

theorem shown?_eq_filtered? {code : Int} {marked : Bool}
    (h : ¬(code = toConfirm.code ∧ marked = true)) : shown? code marked = filtered? code marked := by
  cases marked with
  | false => rfl
  | true =>
    have hcode : code ≠ toConfirm.code := fun hc => h ⟨hc, rfl⟩
    simp [shown?, filtered?, hcode]

def wording : EnrollmentStatus → Wording
  | .waitingList => .courseuserStatusWaitingList
  | .toConfirm => .courseuserStatusEnrollmentsToConfirm
  | .subscribed => .courseuserStatusSubscribed
  | .inProgress => .courseuserStatusInProgress
  | .completed => .courseuserStatusCompleted
  | .suspended => .courseuserStatusSuspended
  | .overbooking => .courseuserStatusOverbooking

end EnrollmentStatus

namespace EnrollmentColumns

open EnrollmentStatus (filtered? ofCode? ofCode?_eq_some_iff shown?)

/-- A row is marked or not; where there is no mark to look at, it is not. -/
def Marks (v : Valuation) : Option WaitingMark → Bool → Prop
  | none, marked => marked = false
  | some w, marked => v.value w.condition = .truth marked

/-- The row is on the waiting list of an e-learning course. -/
def isMarked (waiting : Int) (courseType : String) : Bool := waiting = 1 && courseType = "elearning"

theorem marks_liveMark {v : Valuation} {waiting courseType : Expr} {n : Int} {type : String}
    (hwaiting : v.value waiting = .int n) (htype : v.value courseType = .text type) :
    Marks v (liveMark waiting courseType) (isMarked n type) :=
  Valuation.value_and (Valuation.value_eq_int hwaiting 1)
    (Valuation.value_eq_text htype "elearning")

section Rows

variable {f : EnrollmentFilter} {v : Valuation} {status : Expr} {mark : Option WaitingMark}
  {code : Int} {marked : Bool}

theorem keeps_is_iff (hcode : v.value status = .int code) (s : EnrollmentStatus) :
    v.Keeps (.eq status s.expr) ↔ code = s.code := Valuation.keeps_eq_int_iff hcode s.code

theorem keeps_isWaiting_iff (hcode : v.value status = .int code) (hmark : Marks v mark marked) :
    v.Keeps (isWaiting status mark) ↔ code = EnrollmentStatus.waitingList.code ∨ marked = true := by
  cases mark with
  | none =>
    cases hmark
    rw [isWaiting, keeps_is_iff hcode]
    simp
  | some w =>
    have hmarked : v.Keeps w.condition ↔ marked = true := by
      rw [Valuation.Keeps, hmark, Sql.Value.truth.injEq]
    rw [isWaiting, Valuation.keeps_or_iff, keeps_is_iff hcode, hmarked]

theorem keeps_leaveOutWaiting_iff {e : Expr} (hmark : Marks v mark marked) :
    v.Keeps (leaveOutWaiting mark e) ↔ v.Keeps e ∧ marked = false := by
  cases mark with
  | none =>
    cases hmark
    simp [leaveOutWaiting]
  | some w =>
    have hmarked : v.Keeps (.not w.condition) ↔ marked = false := by
      rw [Valuation.keeps_not_iff hmark, Valuation.Keeps, hmark]
      cases marked <;> simp
    rw [leaveOutWaiting, Valuation.keeps_paren_iff, Valuation.keeps_and_iff, hmarked]

theorem exists_keeps_isAmong_iff (hcode : v.value status = .int code)
    (ss : List EnrollmentStatus) :
    (∃ e ∈ isAmong status ss, v.Keeps e) ↔ ∃ s ∈ ss, s.code = code := by
  cases ss with
  | nil => simp [isAmong]
  | cons s rest =>
    have hcodes : rest.map EnrollmentStatus.expr = (rest.map EnrollmentStatus.code).map .int := by
      rw [List.map_map]
      rfl
    have hamong : v.Keeps (.oneOf status s.expr (rest.map (·.expr))) ↔
        code ∈ s.code :: rest.map EnrollmentStatus.code := by
      rw [hcodes]
      exact Valuation.keeps_oneOf_iff hcode s.code _
    rw [← List.map_cons, List.mem_map] at hamong
    simpa [isAmong] using hamong

theorem mem_pickedStatuses {s : EnrollmentStatus} :
    s ∈ pickedStatuses f ↔ s ≠ .waitingList ∧ f.picks s = true := by
  simp only [pickedStatuses, List.mem_append, mem_when, List.mem_singleton]
  cases s <;> simp [EnrollmentFilter.picks]

/-- The codes of the picked statuses and the waiting rows make up one question: whether the row is
taken for a status that the filter picks. -/
theorem exists_picked_iff :
    (f.waitingList = true ∧ (code = EnrollmentStatus.waitingList.code ∨ marked = true)) ∨
        (∃ s ∈ pickedStatuses f, s.code = code) ∧ (f.waitingList = true ∨ marked = false) ↔
      ∃ s ∈ filtered? code marked, f.picks s = true := by
  cases marked with
  | true => simp [filtered?, EnrollmentFilter.picks]
  | false =>
    have hfiltered : filtered? code false = ofCode? code := rfl
    simp only [hfiltered, Option.mem_def, ofCode?_eq_some_iff, mem_pickedStatuses]
    constructor
    · rintro (⟨hlist, hcode⟩ | ⟨⟨s, ⟨-, hpicks⟩, hcode⟩, -⟩)
      · have hwaiting : code = EnrollmentStatus.waitingList.code := by simpa using hcode
        exact ⟨.waitingList, hwaiting.symm, hlist⟩
      · exact ⟨s, hcode, hpicks⟩
    · rintro ⟨s, hcode, hpicks⟩
      by_cases hwaiting : s = .waitingList
      · subst hwaiting
        exact .inl ⟨hpicks, .inl hcode.symm⟩
      · exact .inr ⟨⟨s, ⟨hwaiting, hpicks⟩, hcode⟩, .inr trivial⟩

theorem exists_keeps_statusAlternatives_iff (hcode : v.value status = .int code)
    (hmark : Marks v mark marked) :
    (∃ e ∈ statusAlternatives f status mark, v.Keeps e) ↔
      ∃ s ∈ filtered? code marked, f.picks s = true := by
  have hamong := exists_keeps_isAmong_iff hcode (pickedStatuses f)
  have hwaiting := keeps_isWaiting_iff hcode hmark
  rw [← exists_picked_iff, ← hamong, ← hwaiting]
  unfold statusAlternatives
  cases f.waitingList with
  | true => simp [when, Valuation.keeps_paren_iff, or_comm]
  | false =>
    cases isAmong status (pickedStatuses f) with
    | none => simp [when]
    | some e => simp [when, keeps_leaveOutWaiting_iff hmark]

theorem statusAlternatives_ne_nil (hany : f.flags.any id = true) (status : Expr)
    (mark : Option WaitingMark) : statusAlternatives f status mark ≠ [] := by
  obtain ⟨s, hs⟩ := EnrollmentFilter.any_iff_exists_picks.mp hany
  unfold statusAlternatives
  by_cases hwaiting : s = .waitingList
  · subst hwaiting
    have hlist : f.waitingList = true := hs
    simp [hlist, when]
  · have hmem : s ∈ pickedStatuses f := mem_pickedStatuses.mpr ⟨hwaiting, hs⟩
    cases hpicked : pickedStatuses f with
    | nil => simp [hpicked] at hmem
    | cons first rest => simp [isAmong]

/-- A filter with some flag keeps the rows that it takes for a status that it picks, or all rows. -/
theorem keepsAll_statusFilter_iff (hany : f.flags.any id = true)
    (hcode : v.value status = .int code) (hmark : Marks v mark marked) :
    v.KeepsAll (statusFilter (some f) status mark) ↔
      f.flags.all id = true ∨ ∃ s ∈ filtered? code marked, f.picks s = true := by
  rw [← exists_keeps_statusAlternatives_iff hcode hmark]
  have hne := statusAlternatives_ne_nil hany status mark
  unfold statusFilter
  by_cases hall : f.flags.all id = true
  · simp [hall, Valuation.KeepsAll]
  · simp only [hall, hany]
    cases halternatives : statusAlternatives f status mark with
    | nil => exact absurd halternatives hne
    | cons e es =>
      simp [Valuation.KeepsAll, Valuation.keeps_paren_iff, Valuation.keeps_joined_or_iff]

theorem keepsAll_statusFilter_iff_of_unmarked {s : EnrollmentStatus} (hany : f.flags.any id = true)
    (hcode : v.value status = .int s.code) (hmark : Marks v mark false) :
    v.KeepsAll (statusFilter (some f) status mark) ↔ f.picks s = true := by
  have hfiltered : filtered? s.code false = some s := ofCode?_eq_some_iff.mpr rfl
  rw [keepsAll_statusFilter_iff hany hcode hmark, hfiltered]
  simp only [Option.mem_some_iff, exists_eq_left']
  exact or_iff_right_of_imp fun hall => f.picks_of_all hall s

/-- The words for a status; without a status, the code itself. -/
def statusWords (ctx : Context) (status : Expr) : Option EnrollmentStatus → Expr
  | some s => ctx.wording s.wording
  | none => .asText status

/-- The first case that fits shows the status that the code and the mark make out. -/
theorem value_statusName (ctx : Context) (hcode : v.value status = .int code)
    (hmark : Marks v mark marked) :
    v.value (statusName ctx status mark) =
      v.value (statusWords ctx status (shown? code marked)) := by
  simp only [statusName, Valuation.value_caseOf_cons, Valuation.value_caseOf_nil,
    keeps_is_iff hcode, keeps_isWaiting_iff hcode hmark]
  cases hknown : ofCode? code with
  | some s =>
    obtain rfl := ofCode?_eq_some_iff.mp hknown
    have hshown : shown? s.code marked =
        if marked ∧ s ≠ .toConfirm then some .waitingList else some s := by
      cases s <;> cases marked <;> rfl
    rw [hshown]
    cases s <;> cases marked <;> simp [statusWords, EnrollmentStatus.code, EnrollmentStatus.wording]
  | none =>
    have hunknown (s : EnrollmentStatus) : code ≠ s.code := by
      intro h
      rw [ofCode?_eq_some_iff.mpr h.symm] at hknown
      cases hknown
    cases marked <;> simp [shown?, hknown, statusWords, hunknown, EnrollmentStatus.wording]

end Rows
end EnrollmentColumns

namespace UsersCourses

open EnrollmentColumns (isMarked keepsAll_statusFilter_iff liveMark marks_liveMark statusFilter
  statusWords)
open EnrollmentStatus (filtered? shown?)

/-- What a report of users and courses asks of the status of a live row. -/
def liveStatusFilter (filter : Option EnrollmentFilter) : List Expr :=
  statusFilter filter (Table.enrollment.col "status")
    (liveMark (Table.enrollment.col "waiting") (Table.course.col "course_type"))

/-- A live row with its code, its waiting value and the type of its course. -/
structure LiveStatus (v : Valuation) (code waiting : Int) (courseType : String) : Prop where
  status : v.value (Table.enrollment.col "status") = .int code
  waiting : v.value (Table.enrollment.col "waiting") = .int waiting
  courseType : v.value (Table.course.col "course_type") = .text courseType

variable {f : EnrollmentFilter} {v : Valuation} {code waiting : Int} {courseType : String}

/-- A live row is shown with the words for its status, and a filter with some flag keeps it exactly
if all flags are on or the status shown is picked, but for one kind of row: a marked row whose code
is to be confirmed, under a filter that picks just one of the two statuses. -/
theorem liveStatus_agrees_iff (hany : f.flags.any id = true) {ctx : Context}
    (htype : ctx.type = .usersCourses) (hfilter : ctx.definition.enrollment = some f)
    (hrow : LiveStatus v code waiting courseType) :
    v.value (EnrollmentColumns.status ctx).live = v.value (statusWords ctx
        (Table.enrollment.col "status") (shown? code (isMarked waiting courseType))) ∧
      ((v.KeepsAll (liveStatusFilter ctx.definition.enrollment) ↔
          f.flags.all id = true ∨
            ∃ s ∈ shown? code (isMarked waiting courseType), f.picks s = true) ↔
        ¬(code = EnrollmentStatus.toConfirm.code ∧ waiting = 1 ∧ courseType = "elearning" ∧
          f.toConfirm ≠ f.waitingList)) := by
  have hmarks := marks_liveMark hrow.waiting hrow.courseType
  constructor
  · have hcol (t : Table) (column : String) : ctx.col t column = t.col column := by
      rw [Context.col, Context.value, htype]
      rfl
    simp only [EnrollmentColumns.status, EnrollmentColumns.enrollmentCol, hcol]
    exact EnrollmentColumns.value_statusName ctx hrow.status hmarks
  · rw [hfilter, liveStatusFilter, keepsAll_statusFilter_iff hany hrow.status hmarks]
    -- Shown and filtered status are one but for marked rows that are to be confirmed.
    by_cases hapart : code = EnrollmentStatus.toConfirm.code ∧ isMarked waiting courseType = true
    · obtain ⟨rfl, hmarked⟩ := hapart
      obtain ⟨rfl, rfl⟩ : waiting = 1 ∧ courseType = "elearning" := by simpa [isMarked] using hmarked
      have hfiltered : filtered? EnrollmentStatus.toConfirm.code (isMarked 1 "elearning") =
          some .waitingList := rfl
      have hshown : shown? EnrollmentStatus.toConfirm.code (isMarked 1 "elearning") =
          some .toConfirm := rfl
      have hall : f.flags.all id = true → f.toConfirm = true ∧ f.waitingList = true := fun h =>
        ⟨f.picks_of_all h .toConfirm, f.picks_of_all h .waitingList⟩
      simp only [hfiltered, hshown, Option.mem_some_iff, exists_eq_left', EnrollmentFilter.picks]
      cases hconfirm : f.toConfirm <;> cases hlist : f.waitingList <;> simp_all
    · rw [EnrollmentStatus.shown?_eq_filtered? hapart]
      simp only [true_iff, iff_self]
      rintro ⟨hcode, hwaiting, htype, -⟩
      exact hapart ⟨hcode, by simp [isMarked, hwaiting, htype]⟩

def liveRow (code waiting : Int) (courseType : String) : Valuation where
  today := 0
  given
    | .col _ "status" => .int code
    | .col _ "waiting" => .int waiting
    | .col _ "course_type" => .text courseType
    | _ => .nothing

def reportOn (f : EnrollmentFilter) : Context where
  definition := { idReport := "", type := .usersCourses, enrollment := some f }
  session := { idUser := 1 }

def noStatuses : EnrollmentFilter where
  completed := false
  inProgress := false
  notStarted := false
  waitingList := false
  suspended := false
  toConfirm := false
  subscribed := false
  overbooking := false

def onlyCompleted : EnrollmentFilter := { noStatuses with completed := true }

/-- A completed enrollment that is still marked is shown as waiting and left out. -/
theorem liveStatus_agrees_iff_onlyCompleted :
    onlyCompleted.flags.any id = true ∧ (reportOn onlyCompleted).type = .usersCourses ∧
      (reportOn onlyCompleted).definition.enrollment = some onlyCompleted ∧
      LiveStatus (liveRow 2 1 "elearning") 2 1 "elearning" ∧
      (liveRow 2 1 "elearning").value (EnrollmentColumns.status (reportOn onlyCompleted)).live =
        (liveRow 2 1 "elearning").value
          ((reportOn onlyCompleted).wording .courseuserStatusWaitingList) ∧
      ¬(liveRow 2 1 "elearning").KeepsAll (liveStatusFilter (some onlyCompleted)) := by
  have hany : onlyCompleted.flags.any id = true := rfl
  have htype : (reportOn onlyCompleted).type = .usersCourses := rfl
  have hfilter : (reportOn onlyCompleted).definition.enrollment = some onlyCompleted := rfl
  have hrow : LiveStatus (liveRow 2 1 "elearning") 2 1 "elearning" := ⟨rfl, rfl, rfl⟩
  obtain ⟨hshown, hagrees⟩ := liveStatus_agrees_iff hany htype hfilter hrow
  have hkeeps := hagrees.mpr (by decide)
  refine ⟨hany, htype, hfilter, hrow, hshown, fun h => ?_⟩
  exact absurd (hkeeps.mp h) (by decide)

def onlyToConfirm : EnrollmentFilter := { noStatuses with toConfirm := true }

/-- A marked enrollment that is to be confirmed is shown as that and left out all the same. -/
theorem liveStatus_disagrees_onlyToConfirm :
    onlyToConfirm.flags.any id = true ∧
      LiveStatus (liveRow (-1) 1 "elearning") (-1) 1 "elearning" ∧
      (liveRow (-1) 1 "elearning").value (EnrollmentColumns.status (reportOn onlyToConfirm)).live =
        (liveRow (-1) 1 "elearning").value
          ((reportOn onlyToConfirm).wording .courseuserStatusEnrollmentsToConfirm) ∧
      onlyToConfirm.picks .toConfirm = true ∧
      ¬(liveRow (-1) 1 "elearning").KeepsAll (liveStatusFilter (some onlyToConfirm)) :=
  ⟨rfl, ⟨rfl, rfl, rfl⟩, rfl, rfl, by decide⟩

end UsersCourses
end LearningReports
