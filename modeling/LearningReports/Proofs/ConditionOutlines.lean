import LearningReports.Proofs.PartwiseChecks

/-! # Outlines of conditions and sources

Conditions on dates depend on the texts of a definition only through the bounds of its dates, and
the other conditions not at all. The bounds are closed when their days have their quotes in pairs.
Sources over closed conditions are closed. -/
namespace LearningReports

open Sql (Expr Fragment)
open Text (isPaired isPlain)

/-! ## Dates -/

namespace DateFilter

/-- The option puts no days into a query but such as have their single quotes in pairs. -/
def isHarmless : Option DateOption → Bool
  | none => true
  | some o =>
    if isActive (some o) && (o.type = "range" || o.operator = "range") then
      isPaired (dayOf o.first) && isPaired (dayOf o.last)
    else true

theorem outline_condition? (column : Expr) (o : Option DateOption) :
    (condition? column o).map Expr.outline =
      (condition? column (o.map DateOption.outline)).map Expr.outline := by
  cases o with
  | none => rfl
  | some o =>
    have hrange : (range? column o).map Expr.outline =
        (range? column o.outline).map Expr.outline := by
      have hfirst : o.outline.first.isPresent = o.first.isPresent := rfl
      have hlast : o.outline.last.isPresent = o.last.isPresent := rfl
      simp only [range?, hfirst, hlast]
      cases o.first.isPresent <;> cases o.last.isPresent <;>
        simp only [Option.map_some, Option.map_none, Expr.and, Expr.ge, Expr.le, Expr.outline,
          Sql.Moment.outline]
    simp only [condition?, Option.map_some]
    change _ = Option.map Expr.outline (if !isActive (some o) then none
      else if o.type = "range" || o.operator = "range" then range? column o.outline
      else relative? column o.operator o.days)
    split
    · rfl
    · split
      · exact hrange
      · rfl

def outlineDated (pair : Dated) : Dated := (pair.1, pair.2.map DateOption.outline)

theorem outline_conditions (pairs : List Dated) :
    (conditions pairs).map Expr.outline =
      (conditions (pairs.map outlineDated)).map Expr.outline := by
  rw [conditions, conditions, List.filterMap_map, List.map_filterMap, List.map_filterMap]
  exact List.filterMap_congr fun pair _ => outline_condition? pair.1 pair.2

theorem outline_combine (how : DateConditions) (es : List Expr) :
    (combine how es).map Expr.outline = combine how (es.map Expr.outline) := by
  cases es with
  | nil => rfl
  | cons e es =>
    simp only [combine, Option.map_some, Expr.outline, Expr.outline_joined, List.map_cons,
      List.map_map]
    rfl

theorem outline_combined (how : DateConditions) (pairs : List Dated) :
    (combined how pairs).map Expr.outline =
      (combined how (pairs.map outlineDated)).map Expr.outline := by
  have hcombined : (combined? how pairs).map Expr.outline =
      (combined? how (pairs.map outlineDated)).map Expr.outline := by
    rw [combined?, combined?, outline_combine, outline_combine, outline_conditions]
  rw [combined, combined, ← Option.toList_map, ← Option.toList_map, hcombined]

theorem boundsPass_of_isHarmless {o : Option DateOption} (h : isHarmless o = true) :
    BoundsPass (Expr.isClosed isPaired) o := by
  rintro d hd hactive hrange
  cases hd
  have hboth : isActive (some d) && (d.type = "range" || d.operator = "range") :=
    (Bool.and_eq_true _ _).mpr ⟨hactive, by simpa using hrange⟩
  rw [isHarmless, if_pos hboth] at h
  obtain ⟨hfirst, hlast⟩ := (Bool.and_eq_true _ _).mp h
  exact ⟨Text.isPaired_append hfirst (by decide), Text.isPaired_append hlast (by decide)⟩

end DateFilter

/-- The days that can stand in a query have their single quotes in pairs. -/
structure Definition.HarmlessDates (d : Definition) : Prop where
  enrollment : DateFilter.isHarmless d.enrollmentDate = true
  completion : DateFilter.isHarmless d.completionDate = true
  surveyCompletion : DateFilter.isHarmless d.surveyCompletionDate = true
  archiving : DateFilter.isHarmless d.archivingDate = true
  courseExpiration : DateFilter.isHarmless d.courseExpirationDate = true
  published : DateFilter.isHarmless d.publishedDate = true
  sessions : ∀ s ∈ d.sessionDates, DateFilter.isHarmless (some s.start) = true ∧
    DateFilter.isHarmless (some s.finish) = true

theorem Definition.HarmlessDates.boundsPass {d : Definition} (h : d.HarmlessDates) :
    d.BoundsPass (Expr.isClosed isPaired) where
  enrollment := DateFilter.boundsPass_of_isHarmless h.enrollment
  completion := DateFilter.boundsPass_of_isHarmless h.completion
  surveyCompletion := DateFilter.boundsPass_of_isHarmless h.surveyCompletion
  archiving := DateFilter.boundsPass_of_isHarmless h.archiving
  courseExpiration := DateFilter.boundsPass_of_isHarmless h.courseExpiration
  published := DateFilter.boundsPass_of_isHarmless h.published
  sessions s hs := by
    obtain ⟨hstart, hfinish⟩ := h.sessions s hs
    exact ⟨DateFilter.boundsPass_of_isHarmless hstart, DateFilter.boundsPass_of_isHarmless hfinish⟩

/-! ## Lists of conditions -/

def AllClosed (es : List Expr) : Prop := ∀ e ∈ es, e.isClosed isPaired = true

section Lists

variable {es fs : List Expr}

theorem Passed.closed (h : Passed (Expr.isClosed isPaired) es) : AllClosed es :=
  fun e he => (h e he).1

theorem AllClosed.append (hes : AllClosed es) (hfs : AllClosed fs) : AllClosed (es ++ fs) :=
  List.forall_mem_append.mpr ⟨hes, hfs⟩

def SameOutlines (es fs : List Expr) : Prop := es.map Expr.outline = fs.map Expr.outline

theorem SameOutlines.refl (es : List Expr) : SameOutlines es es := rfl

theorem SameOutlines.append {es' fs' : List Expr} (hes : SameOutlines es es')
    (hfs : SameOutlines fs fs') : SameOutlines (es ++ fs) (es' ++ fs') := by
  unfold SameOutlines at *
  rw [List.map_append, List.map_append, hes, hfs]

theorem Context.outline_dates (ctx : Context) (pairs : List DateFilter.Dated) :
    SameOutlines (ctx.dates pairs) (ctx.outlined.dates (pairs.map DateFilter.outlineDated)) :=
  DateFilter.outline_combined ctx.definition.conditions pairs

end Lists

/-! ## Sources -/

def AllFragments (fs : List Fragment) : Prop := ∀ f ∈ fs, f.isClosed isPaired = true

theorem AllFragments.nil : AllFragments [] := List.forall_mem_nil _

theorem AllFragments.cons {f : Fragment} {fs : List Fragment} (hf : f.isClosed isPaired = true)
    (hfs : AllFragments fs) : AllFragments (f :: fs) :=
  List.forall_mem_cons.mpr ⟨hf, hfs⟩

theorem AllFragments.append {fs gs : List Fragment} (hfs : AllFragments fs)
    (hgs : AllFragments gs) : AllFragments (fs ++ gs) :=
  List.forall_mem_append.mpr ⟨hfs, hgs⟩

theorem allFragments_restrictAll {es : List Expr} (h : Passed (Expr.isClosed isPaired) es) :
    AllFragments (restrictAll es) := by
  intro f hf
  obtain ⟨e, he, rfl⟩ := List.mem_map.mp hf
  exact (Bool.and_eq_true _ _).mpr (h e he)

def SameFragments (fs gs : List Fragment) : Prop :=
  fs.map Fragment.outline = gs.map Fragment.outline

theorem SameFragments.refl (fs : List Fragment) : SameFragments fs fs := rfl

theorem SameFragments.append {fs fs' gs gs' : List Fragment} (hfs : SameFragments fs fs')
    (hgs : SameFragments gs gs') : SameFragments (fs ++ gs) (fs' ++ gs') := by
  unfold SameFragments at *
  rw [List.map_append, List.map_append, hfs, hgs]

theorem SameFragments.cons {f g : Fragment} {fs gs : List Fragment} (h : f.outline = g.outline)
    (hfs : SameFragments fs gs) : SameFragments (f :: fs) (g :: gs) := by
  unfold SameFragments at *
  rw [List.map_cons, List.map_cons, h, hfs]

theorem sameFragments_restrictAll {es fs : List Expr} (h : SameOutlines es fs) :
    SameFragments (restrictAll es) (restrictAll fs) := by
  have hmap (gs : List Expr) :
      (restrictAll gs).map Fragment.outline = restrictAll (gs.map Expr.outline) := by
    rw [restrictAll, restrictAll, List.map_map, List.map_map]
    rfl
  unfold SameFragments
  rw [hmap, hmap, h]

namespace Table

variable {t : Table} {es : List Expr} {condition : Expr}

theorem isClosed_subselect (ht : t.IsPlain) (hes : AllClosed es) :
    (Sql.Subselect.rows t.name es).isClosed isPaired = true := by
  simp only [Sql.Subselect.isClosed, Sql.Subselect.rows, ht.name, List.all_cons, List.all_nil,
    List.all_eq_true.mpr hes]
  rfl

theorem isClosed_rows (ht : t.IsPlain) (hes : AllClosed es) :
    (t.rows es).isClosed isPaired = true :=
  (Bool.and_eq_true _ _).mpr ⟨isClosed_subselect ht hes, ht.handle⟩

theorem isClosed_joinQuery (ht : t.IsPlain) {q : Sql.Subselect} (hq : q.isClosed isPaired = true)
    (hcondition : condition.isClosed isPaired = true) :
    (t.joinQuery q condition).isClosed isPaired = true :=
  (Bool.and_eq_true _ _).mpr ⟨(Bool.and_eq_true _ _).mpr ⟨hq, ht.handle⟩, hcondition⟩

theorem isClosed_joinRows (ht : t.IsPlain) (hes : AllClosed es)
    (hcondition : condition.isClosed isPaired = true) :
    (t.joinRows es condition).isClosed isPaired = true :=
  isClosed_joinQuery ht (isClosed_subselect ht hes) hcondition

theorem outline_rows {es' : List Expr} (h : SameOutlines es es') :
    (t.rows es).outline = (t.rows es').outline := by
  change t.rows (es.map Expr.outline) = t.rows (es'.map Expr.outline)
  rw [h]

theorem outline_joinRows {es' : List Expr} (h : SameOutlines es es') :
    (t.joinRows es condition).outline = (t.joinRows es' condition).outline := by
  change t.joinRows (es.map Expr.outline) _ = t.joinRows (es'.map Expr.outline) _
  rw [h]

theorem outline_joinQuery {q : Sql.Subselect} {condition' : Expr}
    (h : condition.outline = condition'.outline) :
    (t.joinQuery q condition).outline = (t.joinQuery q condition').outline := by
  change t.joinQuery q.outline condition.outline = t.joinQuery q.outline condition'.outline
  rw [h]

end Table

/-! ## Reports on enrollments -/

namespace Restrictions

theorem allFragments_sources (ctx : Context) {enrollments courses : List Expr}
    (henrollments : AllClosed enrollments) (hcourses : AllClosed courses) :
    AllFragments (sources ctx enrollments courses) :=
  .cons (Table.isClosed_rows ⟨rfl, rfl⟩ henrollments)
    (.cons (Table.isClosed_joinRows ⟨rfl, rfl⟩ (passed_users ctx).closed rfl)
      (.cons (Table.isClosed_joinRows ⟨rfl, rfl⟩ hcourses rfl) .nil))

theorem outline_courses (ctx : Context) : SameOutlines (courses ctx) (courses ctx.outlined) :=
  .append (.refl _) (ctx.outline_dates _)

theorem outline_enrollmentDates (ctx : Context) :
    SameOutlines (enrollmentDates ctx) (enrollmentDates ctx.outlined) :=
  ctx.outline_dates _

theorem outline_archivedDates (ctx : Context) :
    SameOutlines (archivedDates ctx) (archivedDates ctx.outlined) :=
  .append (ctx.outline_dates _) (ctx.outline_dates _)

theorem outline_sources (ctx : Context) {enrollments enrollments' courses courses' : List Expr}
    (henrollments : SameOutlines enrollments enrollments')
    (hcourses : SameOutlines courses courses') :
    SameFragments (sources ctx enrollments courses)
      (sources ctx.outlined enrollments' courses') :=
  .cons (Table.outline_rows henrollments)
    (.cons rfl (.cons (Table.outline_joinRows hcourses) (.refl [])))

end Restrictions

end LearningReports
