import LearningReports.Proofs.ConditionOutlines

/-! # Outlines of bases

The base of each type of report keeps its outline and is closed, as its conditions are. -/
namespace LearningReports

open Sql (Expr Fragment)
open Text (isPaired isPlain)

/-! ## Types of reports -/

theorem isClosed_archivedCol (column : String) (h : isPlain column = true) :
    (archivedCol column).isClosed isPaired = true :=
  isClosed_col rfl h

namespace UsersCourses

open Restrictions

theorem allFragments_live {ctx : Context} (h : ctx.definition.HarmlessDates) :
    AllFragments (live ctx) :=
  (allFragments_sources ctx
    ((passed_enrollments ctx).append (passed_enrollmentDates h.boundsPass)).closed
    (passed_courses h.boundsPass).closed).append
    (allFragments_restrictAll (.cons ⟨rfl, rfl⟩
      (EnrollmentColumns.passed_statusFilter _ rfl fun w hw => by cases hw; rfl)))

theorem allFragments_archive {ctx : Context} (h : ctx.definition.HarmlessDates) :
    AllFragments (archive ctx) :=
  AllFragments.cons rfl (allFragments_restrictAll
    (((((passed_archivedUsersAndCourses isClosed_archivedCol ctx).append
      (passed_archivedLearners isClosed_archivedCol ctx)).append
      (passed_courseKind _ rfl)).append
      (passed_archivedDates isClosed_archivedCol h.boundsPass)).append
      (EnrollmentColumns.passed_statusFilter _ rfl nofun)))

theorem outline_live (ctx : Context) : SameFragments (live ctx) (live ctx.outlined) :=
  .append (outline_sources ctx (.append (.refl _) (outline_enrollmentDates ctx))
    (outline_courses ctx)) (.refl _)

theorem outline_archive (ctx : Context) : SameFragments (archive ctx) (archive ctx.outlined) :=
  .cons rfl (sameFragments_restrictAll
    (.append (.append (.refl _) (outline_archivedDates ctx)) (.refl _)))

end UsersCourses

namespace EnrollmentTime

open Restrictions

theorem allFragments_base {ctx : Context} (h : ctx.definition.HarmlessDates) :
    AllFragments (base ctx).live :=
  (allFragments_sources ctx (passed_enrollments ctx).closed
    (passed_courses h.boundsPass).closed).append
    (allFragments_restrictAll (.cons ⟨rfl, rfl⟩ (.cons ⟨rfl, rfl⟩ (.singleton ⟨rfl, rfl⟩))))

theorem outline_base (ctx : Context) : SameFragments (base ctx).live (base ctx.outlined).live :=
  .append (outline_sources ctx (.refl _) (outline_courses ctx)) (.refl _)

end EnrollmentTime

namespace ClassroomSessions

open Restrictions

theorem outline_datesFilter (dates : Option SessionDates) (start finish : Expr)
    (anchor : Option Expr) : SameOutlines (datesFilter dates start finish anchor)
      (datesFilter (dates.map SessionDates.outline) start finish anchor) := by
  cases dates with
  | none => exact .refl _
  | some s =>
    have hcombined := DateFilter.outline_combined s.conditions
      [(start, some s.start), (finish, some s.finish)]
    cases anchor with
    | none =>
      have hself (es : List Expr) : (es.map fun e => e) = es := List.map_id es
      change SameOutlines (List.map (fun e => e) _) (List.map (fun e => e) _)
      rw [hself, hself]
      exact hcombined
    | some a =>
      have hwrap (es : List Expr) :
          (es.map fun e => Expr.paren (.or (.isNull a) e)).map Expr.outline =
            (es.map Expr.outline).map fun e => Expr.paren (.or (.isNull a.outline) e) := by
        rw [List.map_map, List.map_map]
        rfl
      unfold SameOutlines
      refine (hwrap _).trans (Eq.trans ?_ (hwrap _).symm)
      rw [hcombined]
      rfl

theorem allFragments_live {ctx : Context} (h : ctx.definition.HarmlessDates) :
    AllFragments (live ctx) := by
  have hcourses : AllClosed (courses ctx ++ [.eq (.name "course_type") (.str "classroom")]) :=
    (passed_courses h.boundsPass).closed.append (List.forall_mem_singleton.mpr rfl)
  have hinstructor : AllFragments [joinInstructor,
      .restrict (.and (.isNull (Table.sessionInstructor.col "id_user")))] :=
    .cons rfl (.cons rfl .nil)
  have hconditions : Passed (Expr.isClosed isPaired) (noVisitors
      :: statusFilter ctx.definition.enrollment (sessionCol "status") (some (sessionCol "waiting"))
      ++ ctx.filters.sessions.conditions (sessionCol "id_session")
      ++ attendanceFilter ctx.definition.attendance (sessionCol "attendance_type")
      ++ datesFilter ctx.definition.sessionDates (sessionCol "date_begin") (sessionCol "date_end")
        (some (sessionCol "id_user"))) :=
    (((Passed.cons ⟨rfl, rfl⟩
      (passed_statusFilter _ rfl fun e he => by cases he; rfl)).append
      (ctx.filters.sessions.passed rfl)).append
      (passed_attendanceFilter _ rfl)).append
      (passed_datesFilter h.boundsPass.sessions rfl rfl fun e he => by cases he; rfl)
  exact ((((allFragments_sources ctx
    ((passed_enrollments ctx).append (passed_enrollmentDates h.boundsPass)).closed hcourses).append
    (.cons (Table.isClosed_joinRows ⟨rfl, rfl⟩ (passed_sessionEnrollments ctx).closed rfl)
      .nil)).append
    fun f hf => hinstructor f (mem_when.mp hf).2).append
    (allFragments_restrictAll hconditions)).append (.cons rfl .nil)

theorem allFragments_archive {ctx : Context} (h : ctx.definition.HarmlessDates) :
    AllFragments (archive ctx) := by
  have hsources : AllFragments [Restrictions.archive, Table.archivedSession.join
      (.eq (archivedCol "id") (Table.archivedSession.col "id_archived_enrollment_course"))] :=
    .cons rfl (.cons rfl .nil)
  have hstatus : Passed (Expr.isClosed isPaired)
      (statusFilter ctx.definition.enrollment archivedStatus none) :=
    passed_statusFilter _ rfl nofun
  have hdates : Passed (Expr.isClosed isPaired) (datesFilter ctx.definition.sessionDates
      (.apply .readTime (archived "session_info" "start_at"))
      (.apply .readTime (archived "session_info" "end_at")) none) :=
    passed_datesFilter h.boundsPass.sessions rfl rfl nofun
  exact hsources.append (allFragments_restrictAll
    (((((((Passed.cons ⟨rfl, rfl⟩ (passed_archivedUsersAndCourses isClosed_archivedCol ctx)).append
      (ctx.filters.sessions.passed rfl)).append
      (passed_archivedLearners isClosed_archivedCol ctx)).append
      (passed_archivedDates isClosed_archivedCol h.boundsPass)).append hstatus).append
      (passed_attendanceFilter _ rfl)).append hdates))

theorem outline_live (ctx : Context) : SameFragments (live ctx) (live ctx.outlined) := by
  have hsources := outline_sources ctx
    (.append (.refl (enrollments ctx)) (outline_enrollmentDates ctx))
    (.append (outline_courses ctx) (.refl [.eq (.name "course_type") (.str "classroom")]))
  exact (((hsources.append (.refl _)).append (.refl _)).append
    (sameFragments_restrictAll (.append (.refl _) (outline_datesFilter _ _ _ _)))).append (.refl _)

theorem outline_archive (ctx : Context) : SameFragments (archive ctx) (archive ctx.outlined) :=
  .append (.refl _) (sameFragments_restrictAll
    (.append (.append (.append (.append (.refl _) (outline_archivedDates ctx)) (.refl _))
      (.refl _)) (outline_datesFilter _ _ _ _)))

end ClassroomSessions

namespace PlanStatistics

open Restrictions

theorem isClosed_userQuery (ctx : Context) : (userQuery ctx).isClosed isPaired = true := by
  have hstate : (userState ctx).all (Expr.isClosed isPaired) = true :=
    (passed_userState ctx).all
  simp only [Sql.Subselect.isClosed, userQuery, List.all_cons, hstate]
  rfl

theorem isClosed_completions (ctx : Context) {completion : Expr}
    (h : completion.isClosed isPaired = true) :
    (completions ctx completion).isClosed isPaired = true := by
  have hconditions : (ctx.filters.plans.conditions (Table.planUser.col "id_path")
      ++ ctx.filters.users.conditions (Table.planUser.col "idUser")).all
      (Expr.isClosed isPaired) = true :=
    ((ctx.filters.plans.passed rfl).append (ctx.filters.users.passed rfl)).all
  simp only [Sql.Subselect.isClosed, completions, List.cons_append, List.all_cons, hconditions, h]
  rfl

theorem allFragments_completionParts {ctx : Context} (h : ctx.definition.HarmlessDates) :
    AllFragments (completionParts ctx) := by
  unfold completionParts
  split
  · exact .nil
  · next completion hcompletion =>
    have hclosed : completion.isClosed isPaired = true :=
      DateFilter.passes_condition? rfl h.boundsPass.completion hcompletion
    have hquery : (Sql.Body.union [completions ctx completion]).isClosed isPaired = true := by
      rw [Sql.Body.isClosed, List.all_cons, isClosed_completions ctx hclosed]
      rfl
    have hdefine : (Fragment.define Table.planCompletion.name
        (.union [completions ctx completion])).isClosed isPaired = true := by
      rw [Fragment.isClosed, hquery]
      rfl
    exact .cons hdefine (.cons rfl .nil)

theorem outline_completions (ctx : Context) {e e' : Expr} (h : e.outline = e'.outline) :
    (completions ctx e).outline = (completions ctx.outlined e').outline := by
  simp only [Sql.Subselect.outline, completions, List.map_cons, List.map_nil, h]
  rfl

theorem outline_completionParts (ctx : Context) :
    SameFragments (completionParts ctx) (completionParts ctx.outlined) := by
  have hcondition := DateFilter.outline_condition?
    (.aggregate .max (Table.plainEnrollment.col "date_complete")) ctx.definition.completionDate
  unfold completionParts
  rw [show ctx.outlined.definition.completionDate =
    ctx.definition.completionDate.map DateOption.outline from rfl]
  generalize DateFilter.condition? _ ctx.definition.completionDate = before at hcondition ⊢
  generalize DateFilter.condition? _ (ctx.definition.completionDate.map DateOption.outline) = after
    at hcondition ⊢
  cases before with
  | none =>
    cases after with
    | none => exact .refl _
    | some e' => cases hcondition
  | some e =>
    cases after with
    | none => cases hcondition
    | some e' =>
      have hquery := outline_completions ctx (Option.some.inj hcondition)
      refine .cons ?_ (.refl _)
      simp only [Fragment.outline, Sql.Body.outline, List.map_cons, List.map_nil, hquery]

theorem allFragments_base {ctx : Context} (h : ctx.definition.HarmlessDates) :
    AllFragments (base ctx).live := by
  have hsources : AllFragments [
      Table.plan.rows (ctx.filters.plans.conditions (.name "id_path")),
      Table.planUser.joinRows (planUsers ctx)
        (.eq (Table.plan.col "id_path") (Table.planUser.col "id_path")),
      Table.user.joinQuery (userQuery ctx)
        (.eq (Table.user.col "idst") (Table.planUser.col "idUser"))] :=
    .cons (Table.isClosed_rows ⟨rfl, rfl⟩ (ctx.filters.plans.passed rfl).closed)
      (.cons (Table.isClosed_joinRows ⟨rfl, rfl⟩ (passed_planUsers h.boundsPass).closed rfl)
        (.cons (Table.isClosed_joinQuery ⟨rfl, rfl⟩ (isClosed_userQuery ctx) rfl) .nil))
  exact (hsources.append (allFragments_completionParts h)).append (.cons rfl .nil)

theorem outline_base (ctx : Context) : SameFragments (base ctx).live (base ctx.outlined).live := by
  have hsources : SameFragments [
      Table.plan.rows (ctx.filters.plans.conditions (.name "id_path")),
      Table.planUser.joinRows (planUsers ctx)
        (.eq (Table.plan.col "id_path") (Table.planUser.col "id_path")),
      Table.user.joinQuery (userQuery ctx)
        (.eq (Table.user.col "idst") (Table.planUser.col "idUser"))] [
      Table.plan.rows (ctx.filters.plans.conditions (.name "id_path")),
      Table.planUser.joinRows (planUsers ctx.outlined)
        (.eq (Table.plan.col "id_path") (Table.planUser.col "id_path")),
      Table.user.joinQuery (userQuery ctx)
        (.eq (Table.user.col "idst") (Table.planUser.col "idUser"))] :=
    .cons rfl (.cons (Table.outline_joinRows (.append (.refl _) (ctx.outline_dates _))) (.refl _))
  exact (hsources.append (outline_completionParts ctx)).append (.refl _)

end PlanStatistics

namespace SurveyAnswers

open Restrictions

theorem isClosed_trackConditions {ctx : Context} (h : ctx.definition.HarmlessDates) :
    (trackConditions ctx).isClosed isPaired = true := by
  have hcompleted : AllClosed (DateFilter.condition? (Table.itemTrack.col "last_complete")
      ctx.definition.surveyCompletionDate).toList := fun e he =>
    DateFilter.passes_condition? rfl h.boundsPass.surveyCompletion (Option.mem_toList.mp he)
  refine Expr.Partwise.joined .and nofun rfl ?_
  rw [List.all_append, List.all_eq_true.mpr hcompleted]
  rfl

theorem allFragments_base {ctx : Context} (h : ctx.definition.HarmlessDates) :
    AllFragments (base ctx).live := by
  have hgroups : AllClosed ((Selection.groups ctx.definition).conditions (.name "idst")) :=
    ((Selection.groups ctx.definition).passed rfl).closed
  have hsurveys : AllClosed (ctx.filters.surveys.conditions (.name "id_poll")) :=
    (ctx.filters.surveys.passed rfl).closed
  exact .cons rfl
    (.cons (Table.isClosed_rows ⟨rfl, rfl⟩ (passed_groupConditions ctx).closed)
    (.cons (Table.isClosed_joinRows ⟨rfl, rfl⟩ hgroups rfl)
    (.cons rfl
    (.cons (Table.isClosed_joinRows ⟨rfl, rfl⟩
      (passed_enrollmentConditions h.boundsPass).closed rfl)
    (.cons (Table.isClosed_joinRows ⟨rfl, rfl⟩ (passed_courses h.boundsPass).closed rfl)
    (.cons rfl
    (.cons rfl
    (.cons (Table.isClosed_joinQuery ⟨rfl, rfl⟩ rfl (isClosed_trackConditions h))
    (.cons (Table.isClosed_joinRows ⟨rfl, rfl⟩ hsurveys rfl)
    (.cons rfl (.cons rfl (.cons rfl .nil))))))))))))

theorem outline_enrollmentConditions (ctx : Context) :
    SameOutlines (enrollmentConditions ctx) (enrollmentConditions ctx.outlined) :=
  .append (.refl _) (outline_enrollmentDates ctx)

theorem outline_trackConditions (ctx : Context) :
    (trackConditions ctx).outline = (trackConditions ctx.outlined).outline := by
  have hcondition := DateFilter.outline_condition? (Table.itemTrack.col "last_complete")
    ctx.definition.surveyCompletionDate
  simp only [trackConditions, Expr.outline_joined, List.map_append, ← Option.toList_map, hcondition]
  rfl

theorem outline_base (ctx : Context) : SameFragments (base ctx).live (base ctx.outlined).live := by
  exact .cons rfl (.cons rfl (.cons rfl (.cons rfl
    (.cons (Table.outline_joinRows (outline_enrollmentConditions ctx))
    (.cons (Table.outline_joinRows (outline_courses ctx))
    (.cons rfl (.cons rfl
    (.cons (Table.outline_joinQuery (outline_trackConditions ctx)) (.refl _)))))))))

end SurveyAnswers

namespace AssetStatistics

theorem allFragments_base {ctx : Context} (h : ctx.definition.HarmlessDates) :
    AllFragments (base ctx).live := by
  have hpublished : AllClosed (DateFilter.condition? (.name "created")
      ctx.definition.publishedDate).toList := fun e he =>
    DateFilter.passes_condition? rfl h.boundsPass.published (Option.mem_toList.mp he)
  have hassets : AllClosed (ctx.filters.assets.conditions (.name "id")) :=
    (ctx.filters.assets.passed rfl).closed
  have hsources : AllFragments [
      Table.asset.rows (ctx.filters.assets.conditions (.name "id")
        ++ (DateFilter.condition? (.name "created") ctx.definition.publishedDate).toList),
      Table.assetChannel.join (.and
        (.eq (Table.assetChannel.col "idAsset") (Table.asset.col "id"))
        (.eq (Table.assetChannel.col "asset_type") (.int 1))),
      .source (.leftJoin Table.assetPublication.name Table.assetPublication.handle (.and
        (.eq (Table.asset.col "id") (Table.assetPublication.col "idContent"))
        (.eq (Table.assetPublication.col "actiontype") (.int 1))))] :=
    .cons (Table.isClosed_rows ⟨rfl, rfl⟩ (hassets.append hpublished)) (.cons rfl (.cons rfl .nil))
  exact (hsources.append (allFragments_restrictAll
    (.cons ⟨rfl, rfl⟩ (.cons ⟨rfl, rfl⟩ (ctx.filters.channels.passed rfl))))).append
    (.cons rfl .nil)

theorem outline_base (ctx : Context) : SameFragments (base ctx).live (base ctx.outlined).live := by
  have hpublished : SameOutlines
      (DateFilter.condition? (.name "created") ctx.definition.publishedDate).toList
      (DateFilter.condition? (.name "created") ctx.outlined.definition.publishedDate).toList := by
    have hcondition := DateFilter.outline_condition? (.name "created") ctx.definition.publishedDate
    unfold SameOutlines
    rw [← Option.toList_map, ← Option.toList_map, hcondition]
    rfl
  exact .append (.append (.cons (Table.outline_rows (.append (.refl _) hpublished)) (.refl _))
    (.refl _)) (.refl _)

end AssetStatistics

/-! ## All types of reports -/

theorem allFragments_base {ctx : Context} (h : ctx.definition.HarmlessDates) (t : ReportType)
    (side : Side) : AllFragments ((t.base ctx).side side) := by
  cases t with
  | usersCourses =>
    cases side with
    | live => exact UsersCourses.allFragments_live h
    | archive => exact UsersCourses.allFragments_archive h
  | classroomSessions =>
    cases side with
    | live => exact ClassroomSessions.allFragments_live h
    | archive => exact ClassroomSessions.allFragments_archive h
  | surveyAnswers =>
    cases side with
    | live => exact SurveyAnswers.allFragments_base h
    | archive => exact .nil
  | assetStatistics =>
    cases side with
    | live => exact AssetStatistics.allFragments_base h
    | archive => exact .nil
  | planStatistics =>
    cases side with
    | live => exact PlanStatistics.allFragments_base h
    | archive => exact .nil
  | enrollmentTime =>
    cases side with
    | live => exact EnrollmentTime.allFragments_base h
    | archive => exact .nil

/-- The base of a report depends on the texts that outlines leave out only in expressions. -/
theorem outline_base (ctx : Context) (t : ReportType) (side : Side) :
    SameFragments ((t.base ctx).side side) ((t.base ctx.outlined).side side) := by
  cases t with
  | usersCourses =>
    cases side with
    | live => exact UsersCourses.outline_live ctx
    | archive => exact UsersCourses.outline_archive ctx
  | classroomSessions =>
    cases side with
    | live => exact ClassroomSessions.outline_live ctx
    | archive => exact ClassroomSessions.outline_archive ctx
  | surveyAnswers =>
    cases side with
    | live => exact SurveyAnswers.outline_base ctx
    | archive => exact .refl _
  | assetStatistics =>
    cases side with
    | live => exact AssetStatistics.outline_base ctx
    | archive => exact .refl _
  | planStatistics =>
    cases side with
    | live => exact PlanStatistics.outline_base ctx
    | archive => exact .refl _
  | enrollmentTime =>
    cases side with
    | live => exact EnrollmentTime.outline_base ctx
    | archive => exact .refl _

end LearningReports
