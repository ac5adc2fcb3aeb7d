import LearningReports.Proofs.ColumnScopes
import LearningReports.Proofs.PartwiseChecks

/-! # Scopes of bases

The base of each report starts with its tables, and its conditions name no others. -/
namespace LearningReports

open Sql (Expr Fragment)

/-! ## Conditions -/

def AllScoped (known : List String) (es : List Expr) : Prop :=
  ∀ e ∈ es, e.isScoped known = true

section Conditions

variable {known : List String} {es fs : List Expr}

theorem Passed.scoped (h : Passed (Expr.isScoped known) es) : AllScoped known es :=
  fun e he => (h e he).1

theorem AllScoped.cons {e : Expr} (he : e.isScoped known = true) (hes : AllScoped known es) :
    AllScoped known (e :: es) :=
  List.forall_mem_cons.mpr ⟨he, hes⟩

theorem AllScoped.singleton {e : Expr} (he : e.isScoped known = true) : AllScoped known [e] :=
  List.forall_mem_singleton.mpr he

theorem AllScoped.append (hes : AllScoped known es) (hfs : AllScoped known fs) :
    AllScoped known (es ++ fs) :=
  List.forall_mem_append.mpr ⟨hes, hfs⟩

theorem AllScoped.mono {more : List String} (h : known ⊆ more) (hes : AllScoped known es) :
    AllScoped more es := fun e he => Expr.isScoped_mono h (hes e he)

theorem Definition.boundsPass_isScoped (d : Definition) : d.BoundsPass (Expr.isScoped known) where
  enrollment _ _ _ _ := ⟨rfl, rfl⟩
  completion _ _ _ _ := ⟨rfl, rfl⟩
  surveyCompletion _ _ _ _ := ⟨rfl, rfl⟩
  archiving _ _ _ _ := ⟨rfl, rfl⟩
  courseExpiration _ _ _ _ := ⟨rfl, rfl⟩
  published _ _ _ _ := ⟨rfl, rfl⟩
  sessions _ _ := ⟨fun _ _ _ _ => ⟨rfl, rfl⟩, fun _ _ _ _ => ⟨rfl, rfl⟩⟩

end Conditions

/-! ## Sources -/

namespace Table

variable {t : Table} {known : List String} {es : List Expr} {condition : Expr}

theorem isScoped_rowsQuery (h : AllScoped [t.name] es) :
    (Sql.Subselect.rows t.name es).isScoped = true := by
  have hconditions : es.all (Expr.isScoped [t.name]) = true := List.all_eq_true.mpr h
  simp [Sql.Subselect.isScoped, Sql.Subselect.rows, Sql.Subselect.handles, Sql.Subselect.root,
    Sql.TableJoin.areScoped, Expr.isScoped, Expr.always, hconditions]

theorem isScoped_rows (h : AllScoped [t.name] es) : (t.rows es).isScoped known = true :=
  isScoped_rowsQuery h

theorem isScoped_joinQuery {q : Sql.Subselect} (hq : q.isScoped = true)
    (hcondition : condition.isScoped (t.handle :: known) = true) :
    (t.joinQuery q condition).isScoped known = true :=
  (Bool.and_eq_true _ _).mpr ⟨hq, hcondition⟩

theorem isScoped_joinRows (h : AllScoped [t.name] es)
    (hcondition : condition.isScoped (t.handle :: known) = true) :
    (t.joinRows es condition).isScoped known = true :=
  isScoped_joinQuery (isScoped_rowsQuery h) hcondition

end Table

namespace Sql.Fragment

variable {known : List String} {fs gs : List Fragment}

theorem areScoped_cons {f : Fragment} (hf : f.isScoped known = true)
    (hfs : areScoped (f.handles ++ known) fs = true) : areScoped known (f :: fs) = true :=
  (Bool.and_eq_true _ _).mpr ⟨hf, hfs⟩

theorem areScoped_restrictAll {es : List Expr} (h : AllScoped known es) :
    areScoped known (restrictAll es) = true :=
  areScoped_of_forall fun f hf => by
    obtain ⟨e, he, rfl⟩ := List.mem_map.mp hf
    exact h e he

@[simp] theorem handles_restrictAll (es : List Expr) : (restrictAll es).flatMap handles = [] :=
  List.flatMap_eq_nil_iff.mpr fun f hf => by
    obtain ⟨e, -, rfl⟩ := List.mem_map.mp hf
    rfl

@[simp] theorem started_restrictAll (es : List Expr) :
    (restrictAll es).filterMap started? = [] :=
  List.filterMap_eq_nil_iff.mpr fun f hf => by
    obtain ⟨e, -, rfl⟩ := List.mem_map.mp hf
    rfl

@[simp] theorem keys_restrictAll (es : List Expr) : (restrictAll es).filterMap key? = [] :=
  List.filterMap_eq_nil_iff.mpr fun f hf => by
    obtain ⟨e, -, rfl⟩ := List.mem_map.mp hf
    rfl

end Sql.Fragment

theorem ReportType.nodup_known (t : ReportType) (side : Side) : (t.known side).Nodup := by
  cases t <;> cases side <;> decide

/-- The fragments start a branch of a report: they name only tables that they introduce, know those
that columns rely on, and take no short name twice. -/
structure Opens (t : ReportType) (side : Side) (fs : List Fragment) : Prop where
  inScope : Fragment.areScoped [] fs = true
  known : t.known side ⊆ fs.flatMap Fragment.handles
  distinct : (fs.filterMap Fragment.started?).Nodup
  reserved : fs.filterMap Fragment.started? ⊆ t.reserved side
  keys : ∀ key ∈ fs.filterMap Fragment.key?, key ∉ t.reserved side

theorem Opens.of_started {t : ReportType} {side : Side} {fs : List Fragment}
    (hscoped : Fragment.areScoped [] fs = true)
    (hstarted : fs.filterMap Fragment.started? = t.known side)
    (hkeys : ∀ key ∈ fs.filterMap Fragment.key?, key ∉ t.reserved side) : Opens t side fs where
  inScope := hscoped
  known handle hhandle := by
    rw [← hstarted] at hhandle
    obtain ⟨f, hf, hhandle⟩ := List.mem_filterMap.mp hhandle
    refine List.mem_flatMap.mpr ⟨f, hf, ?_⟩
    cases f with
    | source s => exact List.mem_filterMap.mpr ⟨s, List.mem_singleton.mpr rfl, hhandle⟩
    | _ => cases hhandle
  distinct := hstarted ▸ ReportType.nodup_known t side
  reserved := hstarted ▸ List.subset_cons_self _ _
  keys := hkeys

/-! ## Types of reports -/

namespace Restrictions

theorem areScoped_sources (ctx : Context) {es cs : List Expr}
    (hes : AllScoped [Table.enrollment.name] es) (hcs : AllScoped [Table.course.name] cs) :
    Fragment.areScoped [] (sources ctx es cs) = true := by
  refine Fragment.areScoped_cons (Table.isScoped_rows hes) ?_
  refine Fragment.areScoped_cons (Table.isScoped_joinRows (passed_users ctx).scoped rfl) ?_
  exact Fragment.areScoped_cons (Table.isScoped_joinRows hcs rfl) rfl

theorem passed_archived (ctx : Context) {known : List String}
    (h : Table.archivedEnrollment.handle ∈ known) :
    Passed (Expr.isScoped known) (archivedUsersAndCourses ctx) ∧
      Passed (Expr.isScoped known) (archivedLearners ctx) ∧
      Passed (Expr.isScoped known) (archivedDates ctx) := by
  have hcol (column : String) (_ : Text.isPlain column = true) :
      (archivedCol column).isScoped known = true := List.contains_iff_mem.mpr h
  exact ⟨passed_archivedUsersAndCourses hcol ctx, passed_archivedLearners hcol ctx,
    passed_archivedDates hcol ctx.definition.boundsPass_isScoped⟩

end Restrictions

namespace UsersCourses

open Restrictions

theorem opens_live (ctx : Context) : Opens .usersCourses .live (live ctx) := by
  have hsources : Fragment.areScoped []
      (sources ctx (enrollments ctx ++ enrollmentDates ctx) (courses ctx)) = true :=
    areScoped_sources ctx ((passed_enrollments ctx).append
      (passed_enrollmentDates ctx.definition.boundsPass_isScoped)).scoped
      (passed_courses ctx.definition.boundsPass_isScoped).scoped
  refine .of_started ?_ ?_ ?_
  · refine Fragment.areScoped_append hsources (Fragment.areScoped_restrictAll (.cons rfl ?_))
    exact (EnrollmentColumns.passed_statusFilter _ rfl fun w hw => by cases hw; rfl).scoped
  · rw [live, List.filterMap_append, Fragment.started_restrictAll]
    rfl
  · rw [live, List.filterMap_append, Fragment.keys_restrictAll]
    exact List.forall_mem_nil _

theorem opens_archive (ctx : Context) : Opens .usersCourses .archive (archive ctx) := by
  obtain ⟨husers, hlearners, hdates⟩ :=
    passed_archived ctx (List.mem_cons_self : "aec" ∈ ["aec"])
  refine .of_started ?_ ?_ ?_
  · refine Fragment.areScoped_cons rfl (Fragment.areScoped_restrictAll (Passed.scoped ?_))
    exact (((husers.append hlearners).append (passed_courseKind _ rfl)).append hdates).append
      (EnrollmentColumns.passed_statusFilter _ rfl nofun)
  · rw [archive, List.filterMap_cons, Fragment.started_restrictAll]
    rfl
  · rw [archive, List.filterMap_cons, Fragment.keys_restrictAll]
    exact List.forall_mem_nil _

end UsersCourses

namespace EnrollmentTime

open Restrictions

theorem opens_live (ctx : Context) : Opens .enrollmentTime .live (base ctx).live := by
  have hsources : Fragment.areScoped [] (sources ctx (enrollments ctx) (courses ctx)) = true :=
    areScoped_sources ctx (passed_enrollments ctx).scoped
      (passed_courses ctx.definition.boundsPass_isScoped).scoped
  refine .of_started ?_ rfl (List.forall_mem_nil _)
  refine Fragment.areScoped_append hsources (Fragment.areScoped_restrictAll ?_)
  exact .cons rfl (.cons rfl (.singleton rfl))

end EnrollmentTime

namespace ClassroomSessions

open Restrictions

/-- The join of the instructors stands in the base only for learners. -/
theorem opens_live (ctx : Context) : Opens .classroomSessions .live (live ctx) := by
  have hsources : Fragment.areScoped [] (sources ctx (enrollments ctx ++ enrollmentDates ctx)
      (courses ctx ++ [.eq (.name "course_type") (.str "classroom")])) = true :=
    areScoped_sources ctx ((passed_enrollments ctx).append
      (passed_enrollmentDates ctx.definition.boundsPass_isScoped)).scoped
      ((passed_courses ctx.definition.boundsPass_isScoped).scoped.append (.singleton rfl))
  have hsessions : Fragment.areScoped ["lcu_a", "cu", "lc"]
      [Table.sessionEnrollment.joinRows (sessionEnrollments ctx) (.and
        (.eq (sessionCol "course_id") (Table.enrollment.col "idCourse"))
        (.eq (sessionCol "id_user") (Table.enrollment.col "idUser")))] = true :=
    Fragment.areScoped_cons (Table.isScoped_joinRows (passed_sessionEnrollments ctx).scoped rfl) rfl
  have hconditions : Passed (Expr.isScoped ["lcu_a", "cu", "lc", "ltcusd"]) (noVisitors
      :: statusFilter ctx.definition.enrollment (sessionCol "status") (some (sessionCol "waiting"))
      ++ ctx.filters.sessions.conditions (sessionCol "id_session")
      ++ attendanceFilter ctx.definition.attendance (sessionCol "attendance_type")
      ++ datesFilter ctx.definition.sessionDates (sessionCol "date_begin") (sessionCol "date_end")
        (some (sessionCol "id_user"))) :=
    (((Passed.cons ⟨rfl, rfl⟩ (passed_statusFilter _ rfl fun e he => by cases he; rfl)).append
      (ctx.filters.sessions.passed rfl)).append (passed_attendanceFilter _ rfl)).append
      (passed_datesFilter ctx.definition.boundsPass_isScoped.sessions rfl rfl
        fun e he => by cases he; rfl)
  have hstart := Fragment.areScoped_append hsources hsessions
  unfold live
  cases ctx.onlyLearners with
  | false =>
    refine .of_started ?_ ?_ ?_
    · refine Fragment.areScoped_append (Fragment.areScoped_append
        (Fragment.areScoped_append hstart rfl) ?_) rfl
      exact Fragment.areScoped_restrictAll hconditions.scoped
    · simp only [List.filterMap_append, Fragment.started_restrictAll]
      rfl
    · simp only [List.filterMap_append, Fragment.keys_restrictAll]
      exact List.forall_mem_nil _
  | true =>
    refine .of_started ?_ ?_ ?_
    · refine Fragment.areScoped_append (Fragment.areScoped_append
        (Fragment.areScoped_append hstart rfl) ?_) rfl
      exact Fragment.areScoped_restrictAll
        (hconditions.scoped.mono (List.subset_append_left _ ["ltcsi"]))
    · simp only [List.filterMap_append, Fragment.started_restrictAll]
      rfl
    · simp only [List.filterMap_append, Fragment.keys_restrictAll]
      exact List.forall_mem_singleton.mpr (by decide)

theorem opens_archive (ctx : Context) : Opens .classroomSessions .archive (archive ctx) := by
  obtain ⟨husers, hlearners, hdates⟩ :=
    passed_archived ctx (List.mem_cons_self : "aec" ∈ ["aec", "aes"])
  have hsources : Fragment.areScoped [] [Restrictions.archive, Table.archivedSession.join
      (.eq (archivedCol "id") (Table.archivedSession.col "id_archived_enrollment_course"))] =
    true := rfl
  have hstatus : Passed (Expr.isScoped ["aec", "aes"])
      (statusFilter ctx.definition.enrollment archivedStatus none) :=
    passed_statusFilter _ rfl nofun
  refine .of_started ?_ ?_ ?_
  · refine Fragment.areScoped_append hsources (Fragment.areScoped_restrictAll (Passed.scoped ?_))
    exact ((((((Passed.cons ⟨rfl, rfl⟩ husers).append (ctx.filters.sessions.passed rfl)).append
      hlearners).append hdates).append hstatus).append (passed_attendanceFilter _ rfl)).append
      (passed_datesFilter ctx.definition.boundsPass_isScoped.sessions rfl rfl nofun)
  · rw [archive, List.filterMap_append, Fragment.started_restrictAll]
    rfl
  · rw [archive, List.filterMap_append, Fragment.keys_restrictAll]
    exact List.forall_mem_nil _

end ClassroomSessions

namespace SurveyAnswers

open Restrictions

theorem isScoped_trackConditions (ctx : Context) :
    (trackConditions ctx).isScoped ["lpt", "lco", "lo", "lc", "lcu_a", "cu", "cgm", "cg"] =
      true := by
  have hcompleted : AllScoped ["lpt", "lco", "lo", "lc", "lcu_a", "cu", "cgm", "cg"]
      (DateFilter.condition? (Table.itemTrack.col "last_complete")
        ctx.definition.surveyCompletionDate).toList := fun e he =>
    DateFilter.passes_condition? rfl ctx.definition.boundsPass_isScoped.surveyCompletion
      (Option.mem_toList.mp he)
  refine Expr.Partwise.joined .and nofun rfl ?_
  rw [List.all_append, List.all_eq_true.mpr hcompleted]
  rfl

theorem opens_live (ctx : Context) : Opens .surveyAnswers .live (base ctx).live := by
  have hgroups : AllScoped [Table.groupMember.name]
      ((Selection.groups ctx.definition).conditions (.name "idst")) :=
    ((Selection.groups ctx.definition).passed rfl).scoped
  have hsurveys : AllScoped [Table.survey.name]
      (ctx.filters.surveys.conditions (.name "id_poll")) := (ctx.filters.surveys.passed rfl).scoped
  refine .of_started ?_ rfl (List.forall_mem_nil _)
  refine Fragment.areScoped_cons rfl ?_
  refine Fragment.areScoped_cons (Table.isScoped_rows (passed_groupConditions ctx).scoped) ?_
  refine Fragment.areScoped_cons (Table.isScoped_joinRows hgroups rfl) ?_
  refine Fragment.areScoped_cons rfl ?_
  refine Fragment.areScoped_cons (Table.isScoped_joinRows
    (passed_enrollmentConditions ctx.definition.boundsPass_isScoped).scoped rfl) ?_
  refine Fragment.areScoped_cons (Table.isScoped_joinRows
    (passed_courses ctx.definition.boundsPass_isScoped).scoped rfl) ?_
  refine Fragment.areScoped_cons rfl (Fragment.areScoped_cons rfl ?_)
  refine Fragment.areScoped_cons (Table.isScoped_joinQuery rfl (isScoped_trackConditions ctx)) ?_
  refine Fragment.areScoped_cons (Table.isScoped_joinRows hsurveys rfl) ?_
  rfl

end SurveyAnswers

namespace AssetStatistics

theorem opens_live (ctx : Context) : Opens .assetStatistics .live (base ctx).live := by
  have hassets : AllScoped [Table.asset.name] (ctx.filters.assets.conditions (.name "id")
      ++ (DateFilter.condition? (.name "created") ctx.definition.publishedDate).toList) :=
    (ctx.filters.assets.passed rfl).scoped.append fun e he =>
      DateFilter.passes_condition? rfl ctx.definition.boundsPass_isScoped.published
        (Option.mem_toList.mp he)
  have hsources : Fragment.areScoped [] [
      Table.asset.rows (ctx.filters.assets.conditions (.name "id")
        ++ (DateFilter.condition? (.name "created") ctx.definition.publishedDate).toList),
      Table.assetChannel.join (.and
        (.eq (Table.assetChannel.col "idAsset") (Table.asset.col "id"))
        (.eq (Table.assetChannel.col "asset_type") (.int 1))),
      .source (.leftJoin Table.assetPublication.name Table.assetPublication.handle (.and
        (.eq (Table.asset.col "id") (Table.assetPublication.col "idContent"))
        (.eq (Table.assetPublication.col "actiontype") (.int 1))))] = true :=
    Fragment.areScoped_cons (Table.isScoped_rows hassets) rfl
  refine .of_started ?_ ?_ ?_
  · refine Fragment.areScoped_append (Fragment.areScoped_append hsources
      (Fragment.areScoped_restrictAll ?_)) rfl
    exact .cons rfl (.cons rfl (ctx.filters.channels.passed rfl).scoped)
  · simp only [base, List.filterMap_append, Fragment.started_restrictAll]
    rfl
  · simp only [base, List.filterMap_append, Fragment.keys_restrictAll]
    exact List.forall_mem_nil _

end AssetStatistics

namespace PlanStatistics

open Restrictions

theorem isScoped_userQuery (ctx : Context) : (userQuery ctx).isScoped = true := by
  have hconditions : (userQuery ctx).conditions.all (Expr.isScoped [Table.user.name]) = true :=
    (Passed.cons ⟨rfl, rfl⟩ (passed_userState ctx)).all
  change (_ && (userQuery ctx).conditions.all (Expr.isScoped [Table.user.name]) && _ && _) = true
  rw [hconditions]
  rfl

theorem isScoped_completions (ctx : Context) {completion : Expr}
    (h : completion.isScoped ["lcpu", "lcpc", "lcu", "lcpcc"] = true) :
    (completions ctx completion).isScoped = true := by
  have hconditions : (completions ctx completion).conditions.all
      (Expr.isScoped ["lcpu", "lcpc", "lcu", "lcpcc"]) = true :=
    ((Passed.cons ⟨rfl, rfl⟩ (ctx.filters.plans.passed rfl)).append
      (ctx.filters.users.passed rfl)).all
  have hhaving : (completions ctx completion).having.all
      (Expr.isScoped ["lcpu", "lcpc", "lcu", "lcpcc"]) = true :=
    List.all_eq_true.mpr (AllScoped.cons rfl (.singleton h))
  change (_ && (completions ctx completion).conditions.all
    (Expr.isScoped ["lcpu", "lcpc", "lcu", "lcpcc"]) && _ &&
      (completions ctx completion).having.all
        (Expr.isScoped ["lcpu", "lcpc", "lcu", "lcpcc"])) = true
  rw [hconditions, hhaving]
  rfl

/-- The users who have completed a plan are joined only for a date of completion. -/
theorem opens_live (ctx : Context) : Opens .planStatistics .live (base ctx).live := by
  have hstart : Fragment.areScoped [] [
      Table.plan.rows (ctx.filters.plans.conditions (.name "id_path")),
      Table.planUser.joinRows (planUsers ctx)
        (.eq (Table.plan.col "id_path") (Table.planUser.col "id_path")),
      Table.user.joinQuery (userQuery ctx)
        (.eq (Table.user.col "idst") (Table.planUser.col "idUser"))] = true := by
    refine Fragment.areScoped_cons (Table.isScoped_rows (ctx.filters.plans.passed rfl).scoped) ?_
    refine Fragment.areScoped_cons (Table.isScoped_joinRows
      (passed_planUsers ctx.definition.boundsPass_isScoped).scoped rfl) ?_
    exact Fragment.areScoped_cons (Table.isScoped_joinQuery (isScoped_userQuery ctx) rfl) rfl
  unfold base completionParts
  cases hcompletion : DateFilter.condition?
      (.aggregate .max (Table.plainEnrollment.col "date_complete"))
      ctx.definition.completionDate with
  | none => exact .of_started (Fragment.areScoped_append hstart rfl) rfl (List.forall_mem_nil _)
  | some completion =>
    have hbody : Fragment.isScoped ["cu", "lcpu", "lcp"]
        (.define Table.planCompletion.name (.union [completions ctx completion])) = true :=
      List.all_eq_true.mpr (List.forall_mem_singleton.mpr
        (isScoped_completions ctx (DateFilter.passes_condition? rfl
          ctx.definition.boundsPass_isScoped.completion hcompletion)))
    refine ⟨?_, ?_, ?_, ?_, List.forall_mem_nil _⟩
    · exact Fragment.areScoped_append
        (Fragment.areScoped_append hstart (Fragment.areScoped_cons hbody rfl)) rfl
    · change ReportType.known .planStatistics .live ⊆ ["lcp", "lcpu", "cu", "lcpcumcw"]
      decide
    · change ["lcp", "lcpu", "cu", "lcpcumcw"].Nodup
      decide
    · change ["lcp", "lcpu", "cu", "lcpcumcw"] ⊆ _
      decide

end PlanStatistics

theorem opens_base (ctx : Context) {side : Side} (hside : ctx.type.hasSide side = true) :
    Opens ctx.type side ((ctx.type.base ctx).side side) := by
  revert hside
  cases ctx.type with
  | usersCourses =>
    cases side with
    | live => exact fun _ => UsersCourses.opens_live ctx
    | archive => exact fun _ => UsersCourses.opens_archive ctx
  | classroomSessions =>
    cases side with
    | live => exact fun _ => ClassroomSessions.opens_live ctx
    | archive => exact fun _ => ClassroomSessions.opens_archive ctx
  | surveyAnswers =>
    cases side with
    | live => exact fun _ => SurveyAnswers.opens_live ctx
    | archive => exact nofun
  | assetStatistics =>
    cases side with
    | live => exact fun _ => AssetStatistics.opens_live ctx
    | archive => exact nofun
  | planStatistics =>
    cases side with
    | live => exact fun _ => PlanStatistics.opens_live ctx
    | archive => exact nofun
  | enrollmentTime =>
    cases side with
    | live => exact fun _ => EnrollmentTime.opens_live ctx
    | archive => exact nofun

end LearningReports
