import LearningReports.Proofs.ArchivedConditions
import LearningReports.Proofs.BranchText
import LearningReports.Proofs.PartwiseChecks

/-! # WHERE clauses

The conditions of every report have their brackets, in its branches and in the inner queries that
these start from. What stands after WHERE is then read as all of the conditions together. -/
namespace LearningReports

open Sql (Branch Dialect Expr Fragment Restriction)
open Text (Facts IsChain)

/-! ## Bracketed fragments -/

namespace Sql

def Subselect.isBracketed (q : Subselect) : Bool :=
  q.joins.all (·.condition.isBracketed true) && q.conditions.all (Expr.isBracketed false)
    && q.having.all (Expr.isBracketed false)

def Relation.isBracketed : Relation → Bool
  | .table _ => true
  | .inner q => q.isBracketed

def Source.isBracketed : Source → Bool
  | .raw _ => true
  | .first r _ => r.isBracketed
  | .join _ r _ on => r.isBracketed && on.isBracketed true

def Body.isBracketed : Body → Bool
  | .raw _ => true
  | .union qs => qs.all Subselect.isBracketed

/-- All conditions of the fragment have their brackets, and none is a given text. -/
def Fragment.isBracketed : Fragment → Bool
  | .restrict (.raw _) => false
  | .restrict (.and e) => e.isBracketed false && e.endsSolid
  | .source s => s.isBracketed
  | .join _ ss => ss.all Source.isBracketed
  | .define _ b => b.isBracketed
  | .select _ _ | .groupBy _ => true

end Sql

/-- All fragments are bracketed. -/
def AllBracketed (fs : List Fragment) : Prop := ∀ f ∈ fs, f.isBracketed = true

namespace AllBracketed

variable {f : Fragment} {fs gs : List Fragment} {es : List Expr}

theorem nil : AllBracketed [] := List.forall_mem_nil _

theorem cons (hf : f.isBracketed = true) (hfs : AllBracketed fs) : AllBracketed (f :: fs) :=
  List.forall_mem_cons.mpr ⟨hf, hfs⟩

theorem append (hfs : AllBracketed fs) (hgs : AllBracketed gs) : AllBracketed (fs ++ gs) :=
  List.forall_mem_append.mpr ⟨hfs, hgs⟩

theorem restrictAll (h : Passed (Expr.isBracketed false) es) :
    AllBracketed (LearningReports.restrictAll es) := by
  intro f hf
  obtain ⟨e, he, rfl⟩ := List.mem_map.mp hf
  exact (Bool.and_eq_true _ _).mpr (h e he)

end AllBracketed

section Sources

variable {t : Table} {es : List Expr} {on : Expr} {q : Sql.Subselect}

theorem Sql.Subselect.isBracketed_rows {table : String}
    (h : es.all (Expr.isBracketed false) = true) :
    (Sql.Subselect.rows table es).isBracketed = true := by
  simp [Sql.Subselect.isBracketed, Sql.Subselect.rows, h, Expr.always, Expr.isBracketed]

theorem Table.isBracketed_rows (h : es.all (Expr.isBracketed false) = true) :
    (t.rows es).isBracketed = true := Sql.Subselect.isBracketed_rows h

theorem Table.isBracketed_joinQuery (hq : q.isBracketed = true) (hon : on.isBracketed true = true) :
    (t.joinQuery q on).isBracketed = true := (Bool.and_eq_true _ _).mpr ⟨hq, hon⟩

theorem Table.isBracketed_joinRows (h : es.all (Expr.isBracketed false) = true)
    (hon : on.isBracketed true = true) : (t.joinRows es on).isBracketed = true :=
  isBracketed_joinQuery (Sql.Subselect.isBracketed_rows h) hon

end Sources

/-! ## Bases -/

theorem Definition.boundsPass_isBracketed (d : Definition) :
    d.BoundsPass (Expr.isBracketed false) where
  enrollment _ _ _ _ := ⟨rfl, rfl⟩
  completion _ _ _ _ := ⟨rfl, rfl⟩
  surveyCompletion _ _ _ _ := ⟨rfl, rfl⟩
  archiving _ _ _ _ := ⟨rfl, rfl⟩
  courseExpiration _ _ _ _ := ⟨rfl, rfl⟩
  published _ _ _ _ := ⟨rfl, rfl⟩
  sessions _ _ := ⟨fun _ _ _ _ => ⟨rfl, rfl⟩, fun _ _ _ _ => ⟨rfl, rfl⟩⟩

theorem passes_condition?_toList {column : Expr} {o : Option DateOption}
    (hcolumn : column.isBracketed false = true)
    (ho : DateFilter.BoundsPass (Expr.isBracketed false) o) :
    (DateFilter.condition? column o).toList.all (Expr.isBracketed false) = true :=
  List.all_eq_true.mpr fun _ he => DateFilter.passes_condition? hcolumn ho (Option.mem_toList.mp he)

section Bases

open Restrictions

variable (ctx : Context)

theorem Restrictions.allBracketed_sources {es cs : List Expr}
    (hes : es.all (Expr.isBracketed false) = true) (hcs : cs.all (Expr.isBracketed false) = true) :
    AllBracketed (sources ctx es cs) :=
  .cons (Table.isBracketed_rows hes)
    (.cons (Table.isBracketed_joinRows (passed_users ctx).all rfl)
      (.cons (Table.isBracketed_joinRows hcs rfl) .nil))

theorem Restrictions.passed_bracketed :
    Passed (Expr.isBracketed false) (archivedUsersAndCourses ctx) ∧
      Passed (Expr.isBracketed false) (archivedLearners ctx) ∧
      Passed (Expr.isBracketed false) (archivedDates ctx) :=
  ⟨passed_archivedUsersAndCourses (fun _ _ => rfl) ctx,
    passed_archivedLearners (fun _ _ => rfl) ctx,
    passed_archivedDates (fun _ _ => rfl) ctx.definition.boundsPass_isBracketed⟩

theorem UsersCourses.allBracketed_live : AllBracketed (UsersCourses.live ctx) :=
  (allBracketed_sources ctx ((passed_enrollments ctx).append
    (passed_enrollmentDates ctx.definition.boundsPass_isBracketed)).all
    (passed_courses ctx.definition.boundsPass_isBracketed).all).append
    (.restrictAll (.cons ⟨rfl, rfl⟩
      (EnrollmentColumns.passed_statusFilter _ rfl fun w hw => by cases hw; rfl)))

theorem UsersCourses.allBracketed_archive : AllBracketed (UsersCourses.archive ctx) := by
  obtain ⟨husers, hlearners, hdates⟩ := passed_bracketed ctx
  exact .cons rfl (.restrictAll ((((husers.append hlearners).append
    (passed_courseKind _ rfl)).append hdates).append
      (EnrollmentColumns.passed_statusFilter _ rfl nofun)))

theorem EnrollmentTime.allBracketed_base : AllBracketed (EnrollmentTime.base ctx).live :=
  (allBracketed_sources ctx (passed_enrollments ctx).all
    (passed_courses ctx.definition.boundsPass_isBracketed).all).append
    (.restrictAll (.cons ⟨rfl, rfl⟩ (.cons ⟨rfl, rfl⟩ (.singleton ⟨rfl, rfl⟩))))

theorem ClassroomSessions.allBracketed_live : AllBracketed (ClassroomSessions.live ctx) := by
  have hsources : AllBracketed (sources ctx (enrollments ctx ++ enrollmentDates ctx)
      (courses ctx ++ [.eq (.name "course_type") (.str "classroom")])) :=
    allBracketed_sources ctx ((passed_enrollments ctx).append
      (passed_enrollmentDates ctx.definition.boundsPass_isBracketed)).all
      ((passed_courses ctx.definition.boundsPass_isBracketed).append (.singleton ⟨rfl, rfl⟩)).all
  have hsessions : AllBracketed [Table.sessionEnrollment.joinRows (sessionEnrollments ctx) (.and
      (.eq (sessionCol "course_id") (Table.enrollment.col "idCourse"))
      (.eq (sessionCol "id_user") (Table.enrollment.col "idUser")))] :=
    .cons (Table.isBracketed_joinRows (passed_sessionEnrollments ctx).all rfl) .nil
  have hinstructor : AllBracketed (when ctx.onlyLearners [joinInstructor,
      .restrict (.and (.isNull (Table.sessionInstructor.col "id_user")))]) :=
    fun f hf => AllBracketed.cons rfl (.cons rfl .nil) f (mem_when.mp hf).2
  refine (((hsources.append hsessions).append hinstructor).append (.restrictAll ?_)).append
    (.cons rfl .nil)
  exact ((((Passed.cons ⟨rfl, rfl⟩ (passed_statusFilter _ rfl fun e he => by cases he; rfl)).append
    (ctx.filters.sessions.passed rfl)).append (passed_attendanceFilter _ rfl)).append
    (passed_datesFilter ctx.definition.boundsPass_isBracketed.sessions rfl rfl
      fun e he => by cases he; rfl))

theorem ClassroomSessions.allBracketed_archive : AllBracketed (ClassroomSessions.archive ctx) := by
  obtain ⟨husers, hlearners, hdates⟩ := passed_bracketed ctx
  refine .append (.cons rfl (.cons rfl .nil)) (.restrictAll ?_)
  have hstatus : Passed (Expr.isBracketed false)
      (statusFilter ctx.definition.enrollment archivedStatus none) :=
    passed_statusFilter _ rfl nofun
  exact ((((((Passed.cons ⟨rfl, rfl⟩ husers).append (ctx.filters.sessions.passed rfl)).append
    hlearners).append hdates).append hstatus).append (passed_attendanceFilter _ rfl)).append
    (passed_datesFilter ctx.definition.boundsPass_isBracketed.sessions rfl rfl nofun)

theorem SurveyAnswers.isBracketed_trackConditions :
    (SurveyAnswers.trackConditions ctx).isBracketed true = true := by
  refine Expr.isBracketed_mono (Expr.Partwise.joined .and nofun rfl ?_)
  rw [List.all_append, passes_condition?_toList rfl
    ctx.definition.boundsPass_isBracketed.surveyCompletion]
  rfl

theorem SurveyAnswers.allBracketed_base : AllBracketed (SurveyAnswers.base ctx).live :=
  have hgroups : ((Selection.groups ctx.definition).conditions (.name "idst")).all
      (Expr.isBracketed false) = true := ((Selection.groups ctx.definition).passed rfl).all
  .cons rfl
    (.cons (Table.isBracketed_rows (passed_groupConditions ctx).all)
    (.cons (Table.isBracketed_joinRows hgroups rfl)
    (.cons rfl
    (.cons (Table.isBracketed_joinRows
      (passed_enrollmentConditions ctx.definition.boundsPass_isBracketed).all rfl)
    (.cons (Table.isBracketed_joinRows
      (passed_courses ctx.definition.boundsPass_isBracketed).all rfl)
    (.cons rfl
    (.cons rfl
    (.cons (Table.isBracketed_joinQuery rfl (isBracketed_trackConditions ctx))
    (.cons (Table.isBracketed_joinRows (ctx.filters.surveys.passed rfl).all rfl)
    (.cons rfl (.cons rfl (.cons rfl .nil))))))))))))

theorem AssetStatistics.allBracketed_base : AllBracketed (AssetStatistics.base ctx).live := by
  have hassets : (ctx.filters.assets.conditions (.name "id")
      ++ (DateFilter.condition? (.name "created") ctx.definition.publishedDate).toList).all
      (Expr.isBracketed false) = true := by
    rw [List.all_append, (ctx.filters.assets.passed rfl).all,
      passes_condition?_toList rfl ctx.definition.boundsPass_isBracketed.published]
    rfl
  exact ((AllBracketed.cons (Table.isBracketed_rows hassets) (.cons rfl (.cons rfl .nil))).append
    (.restrictAll (.cons ⟨rfl, rfl⟩ (.cons ⟨rfl, rfl⟩ (ctx.filters.channels.passed rfl))))).append
    (.cons rfl .nil)

theorem PlanStatistics.isBracketed_completions {completion : Expr}
    (h : completion.isBracketed false = true) :
    (PlanStatistics.completions ctx completion).isBracketed = true := by
  have hconditions : (ctx.filters.plans.conditions (Table.planUser.col "id_path")
      ++ ctx.filters.users.conditions (Table.planUser.col "idUser")).all
      (Expr.isBracketed false) = true :=
    ((ctx.filters.plans.passed rfl).append (ctx.filters.users.passed rfl)).all
  simp only [Sql.Subselect.isBracketed, completions, List.cons_append, List.all_cons,
    hconditions, h]
  rfl

theorem PlanStatistics.allBracketed_completionParts :
    AllBracketed (PlanStatistics.completionParts ctx) := by
  unfold completionParts
  split
  · exact .nil
  · next completion hcompletion =>
    have hquery := isBracketed_completions ctx (DateFilter.passes_condition? rfl
      ctx.definition.boundsPass_isBracketed.completion hcompletion)
    exact .cons (List.all_eq_true.mpr (List.forall_mem_singleton.mpr hquery)) (.cons rfl .nil)

theorem PlanStatistics.isBracketed_userQuery :
    (PlanStatistics.userQuery ctx).isBracketed = true := by
  have hstate : (userState ctx).all (Expr.isBracketed false) = true := (passed_userState ctx).all
  simp only [Sql.Subselect.isBracketed, userQuery, List.all_cons, hstate]
  rfl

theorem PlanStatistics.allBracketed_base : AllBracketed (PlanStatistics.base ctx).live :=
  have hsources : AllBracketed _ :=
    .cons (Table.isBracketed_rows (ctx.filters.plans.passed rfl).all)
      (.cons (Table.isBracketed_joinRows
        (passed_planUsers ctx.definition.boundsPass_isBracketed).all rfl)
        (.cons (Table.isBracketed_joinQuery (isBracketed_userQuery ctx) rfl) .nil))
  (hsources.append (allBracketed_completionParts ctx)).append (.cons rfl .nil)

/-- Every condition of every report has its brackets. -/
theorem allBracketed_base (t : ReportType) (side : Side) :
    AllBracketed ((t.base ctx).side side) := by
  cases t with
  | usersCourses =>
    cases side with
    | live => exact UsersCourses.allBracketed_live ctx
    | archive => exact UsersCourses.allBracketed_archive ctx
  | classroomSessions =>
    cases side with
    | live => exact ClassroomSessions.allBracketed_live ctx
    | archive => exact ClassroomSessions.allBracketed_archive ctx
  | surveyAnswers =>
    cases side with
    | live => exact SurveyAnswers.allBracketed_base ctx
    | archive => exact .nil
  | assetStatistics =>
    cases side with
    | live => exact AssetStatistics.allBracketed_base ctx
    | archive => exact .nil
  | planStatistics =>
    cases side with
    | live => exact PlanStatistics.allBracketed_base ctx
    | archive => exact .nil
  | enrollmentTime =>
    cases side with
    | live => exact EnrollmentTime.allBracketed_base ctx
    | archive => exact .nil

end Bases

/-! ## What stands after WHERE -/

theorem AllBracketed.exists_conditions {fs : List Fragment} (h : AllBracketed fs) :
    ∃ es, fs.filterMap Fragment.restriction? = es.map .and ∧
      Passed (Expr.isBracketed false) es := by
  induction fs with
  | nil => exact ⟨[], rfl, .nil⟩
  | cons f fs ih =>
    obtain ⟨hf, hfs⟩ := List.forall_mem_cons.mp h
    obtain ⟨es, hes, hpassed⟩ := ih hfs
    cases f with
    | restrict r =>
      cases r with
      | raw => cases hf
      | and e =>
        exact ⟨e :: es, congrArg (_ :: ·) hes, .cons ((Bool.and_eq_true _ _).mp hf) hpassed⟩
    | _ => exact ⟨es, hes, hpassed⟩

theorem exists_conditions_branch (ctx : Context) (side : Side) :
    ∃ es, (Layout.branch ctx side).restrictions = es.map .and ∧
      Passed (Expr.isBracketed false) es := by
  rw [restrictions_branch]
  exact (allBracketed_base ctx ctx.type side).exists_conditions

namespace Sql.Dialect

variable {d : Dialect}

/-- The text between the WHERE of a branch and its grouping. -/
def whereText (d : Dialect) (b : Branch) : String :=
  "TRUE" ++ "".intercalate (b.restrictions.map fun r => " " ++ Text.trim (d.renderRestriction r))

theorem renderBranch_eq (d : Dialect) (b : Branch) :
    d.renderBranch b =
      "SELECT " ++ ", ".intercalate (b.select.map d.renderSelected) ++ " FROM "
        ++ " ".intercalate (b.sources.map d.renderSource) ++ " WHERE " ++ d.whereText b
        ++ clause " GROUP BY " ", " (b.groupBy.map d.render) := by
  have hwhere : " WHERE TRUE" = " WHERE " ++ "TRUE" := by decide
  rw [renderBranch, whereText, hwhere]
  simp only [String.append_assoc]

theorem intercalate_empty_cons (s : String) (ss : List String) :
    "".intercalate (s :: ss) = s ++ "".intercalate ss := by
  cases ss with
  | nil => simp
  | cons _ _ => simp

theorem intercalate_cons (sep s : String) (ss : List String) :
    sep.intercalate (s :: ss) = s ++ "".intercalate (ss.map (sep ++ ·)) := by
  induction ss generalizing s with
  | nil => simp
  | cons s' ss ih =>
    rw [String.intercalate_cons_cons, ih, List.map_cons, intercalate_empty_cons]
    simp only [String.append_assoc]

theorem render_joined_and (e : Expr) (es : List Expr) :
    d.render (.joined .and e es) = " AND ".intercalate ((e :: es).map d.render) := by
  have hand : " " ++ Operator.and.text ++ " " = " AND " := by decide
  induction es generalizing e with
  | nil => simp [Expr.joined]
  | cons a es ih =>
    rw [Expr.joined, ih, List.map_cons, List.map_cons, List.map_cons, intercalate_cons,
      String.intercalate_cons_cons, intercalate_cons, render, ← hand]
    simp only [String.append_assoc]

theorem whereText_eq {b : Branch} {es : List Expr} (hb : b.restrictions = es.map .and)
    (hes : ∀ e ∈ es, e.endsSolid = true) :
    d.whereText b = d.render (.joined .and .always es) := by
  have htexts : (b.restrictions.map fun r => " " ++ Text.trim (d.renderRestriction r)) =
      es.map fun e => " AND " ++ d.render e := by
    rw [hb, List.map_map]
    exact List.map_congr_left fun e he => trim_renderRestriction (d.endsSolid_render (hes e he))
  rw [whereText, htexts, render_joined_and, List.map_cons, intercalate_cons, List.map_map]
  rfl

theorem renderSubselect_rows (table : String) (es : List Expr) :
    d.renderSubselect (.rows table es) =
      "SELECT * FROM " ++ table ++ " WHERE " ++ d.render (.joined .and .always es) := by
  rw [render_joined_and]
  simp [renderSubselect, Subselect.rows, renderItem, render, clause, String.append_assoc]

end Sql.Dialect

/-! ## How an engine reads it -/

section Read

variable {f : Facts} {d : Dialect} {holds : Expr → Prop} {ctx : Context} {side : Side}

theorem reads_joined_conditions {es : List Expr} (hholds : Expr.Logical holds)
    (hes : ∀ e ∈ es, e.isBracketed false = true) (hspelt : ∀ e ∈ es, Expr.SpeltBy f d holds e) :
    f.reads d (d.render (.joined .and .always es)) = true ↔ ∀ e ∈ es, holds e := by
  have hread (e : Expr) (he : e ∈ es) := Expr.reads_of_spelt hholds (hes e he) (hspelt e he)
  have hchains : ∀ e ∈ es, IsChain (d.render e) := by
    intro e he
    obtain ⟨⟨t, ht, hor⟩, -⟩ := hread e he
    exact ⟨t, ht, hor rfl⟩
  have halways : IsChain (d.render .always) := DateFilter.isChain_true
  have htrue : f.reads d (d.render .always) = true := DateFilter.reads_true
  rw [DateFilter.reads_joined_and halways hchains, List.forall_mem_cons, and_iff_right htrue]
  exact forall₂_congr fun e he => (hread e he).2

/-- An engine reads what stands after the WHERE of a branch as all of its conditions together. -/
theorem reads_whereText (hholds : Expr.Logical holds)
    (hspelt : ∀ e, .and e ∈ (Layout.branch ctx side).restrictions → Expr.SpeltBy f d holds e) :
    f.reads d (d.whereText (Layout.branch ctx side)) = true ↔
      ∀ e, .and e ∈ (Layout.branch ctx side).restrictions → holds e := by
  obtain ⟨es, hes, hpassed⟩ := exists_conditions_branch ctx side
  have hmem (e : Expr) : .and e ∈ (Layout.branch ctx side).restrictions ↔ e ∈ es := by
    rw [hes, mem_map_and]
  simp only [hmem] at hspelt ⊢
  rw [Dialect.whereText_eq hes fun e he => (hpassed e he).2,
    reads_joined_conditions hholds (fun e he => (hpassed e he).1) hspelt]

theorem Sql.Source.Restricts.isBracketed {t : Table} {es : List Expr} {s : Sql.Source}
    (hs : s.Restricts t es) (h : s.isBracketed = true) : ∀ e ∈ es, e.isBracketed false = true := by
  have hrows (h : (Sql.Subselect.rows t.name es).isBracketed = true) :
      ∀ e ∈ es, e.isBracketed false = true := by
    simp only [Sql.Subselect.isBracketed, Sql.Subselect.rows, Bool.and_eq_true, List.all_eq_true,
      List.forall_mem_cons] at h
    exact h.1.2.2
  cases hs with
  | first => exact hrows h
  | join => exact hrows ((Bool.and_eq_true _ _).mp h).1

/-- So it does in the inner queries for the rows of a table. -/
theorem reads_rows {t : Table} {es : List Expr} {s : Sql.Source}
    (hs : .source s ∈ (ctx.type.base ctx).side side) (hes : s.Restricts t es)
    (hholds : Expr.Logical holds) (hspelt : ∀ e ∈ es, Expr.SpeltBy f d holds e) :
    ∃ clause, d.renderSubselect (.rows t.name es) =
        "SELECT * FROM " ++ t.name ++ " WHERE " ++ clause ∧
      (f.reads d clause = true ↔ ∀ e ∈ es, holds e) :=
  ⟨_, d.renderSubselect_rows t.name es, reads_joined_conditions hholds
    (hes.isBracketed (allBracketed_base ctx ctx.type side _ hs)) hspelt⟩

/-- The rows of a branch are those combinations of rows from its sources for which an engine reads
what stands after WHERE as true. -/
theorem rowOf_iff_reads {R : Sql.Reading} {scope : Sql.Scope R.Row}
    (hholds : Expr.Logical (R.holds scope))
    (hspelt : ∀ e, .and e ∈ (Layout.branch ctx side).restrictions →
      Expr.SpeltBy f d (R.holds scope) e) :
    R.RowOf (Layout.branch ctx side) scope ↔
      R.Combines [] (Layout.branch ctx side).sources scope ∧
        f.reads d (d.whereText (Layout.branch ctx side)) = true := by
  rw [reads_whereText hholds hspelt]
  exact ⟨fun h => ⟨h.combines, h.keeps⟩, fun h => ⟨h.1, h.2⟩⟩

end Read

end LearningReports
