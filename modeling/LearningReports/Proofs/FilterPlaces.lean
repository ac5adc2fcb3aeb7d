import LearningReports.Proofs.Rows
import LearningReports.Proofs.Sides

/-! # Where filters stand

Every branch of a report keeps its filters at fixed places: in the inner queries that it starts
from, or after its WHERE. -/
namespace LearningReports

open Sql (Expr Fragment Place)

/-! ## Conditions among fragments -/

/-- The fragments put the condition at a place. -/
def Kept (fs : List Fragment) : Place → Expr → Prop
  | .branch, e => .restrict (.and e) ∈ fs
  | .rows t, e => ∃ s conditions, .source s ∈ fs ∧ s.Restricts t conditions ∧ e ∈ conditions

namespace Kept

variable {fs gs : List Fragment} {p : Place} {t : Table} {e : Expr} {es : List Expr}

theorem mono (h : Kept fs p e) (hsub : fs ⊆ gs) : Kept gs p e := by
  cases p with
  | branch => exact hsub h
  | rows t =>
    obtain ⟨s, conditions, hs, hrest⟩ := h
    exact ⟨s, conditions, hsub hs, hrest⟩

theorem append_left (h : Kept fs p e) : Kept (gs ++ fs) p e :=
  h.mono (List.subset_append_right gs fs)

theorem append_right (h : Kept fs p e) : Kept (fs ++ gs) p e :=
  h.mono (List.subset_append_left fs gs)

theorem cons {f : Fragment} (h : Kept fs p e) : Kept (f :: fs) p e :=
  h.mono (List.subset_cons_self f fs)

theorem of_rows (h : e ∈ es) : Kept (t.rows es :: fs) (.rows t) e :=
  ⟨_, es, .head _, .first, h⟩

theorem of_joinRows {on : Expr} (h : e ∈ es) : Kept (t.joinRows es on :: fs) (.rows t) e :=
  ⟨_, es, .head _, .join, h⟩

theorem of_restrictAll (h : e ∈ es) : Kept (restrictAll es) .branch e :=
  List.mem_map_of_mem h

theorem keeps (h : Kept fs p e) : (Sql.Branch.ofFragments fs).Keeps p e := by
  cases p with
  | branch => exact Sql.Branch.mem_restrictions_ofFragments h
  | rows t =>
    obtain ⟨s, conditions, hs, hrest⟩ := h
    exact ⟨s, Sql.Branch.mem_sources_ofFragments hs, conditions, hrest⟩

theorem branch {ctx : Context} {side : Side} (h : Kept ((ctx.type.base ctx).side side) p e) :
    (Layout.branch ctx side).Keeps p e := by
  cases side with
  | live => exact h.append_right.append_right.keeps
  | archive => exact h.append_right.append_right.keeps

end Kept

/-! ## The places of the filters -/

def Filters.of (f : Filters) : FilterKind → IdFilter
  | .users => f.users
  | .courses => f.courses
  | .plans => f.plans
  | .sessions => f.sessions
  | .surveys => f.surveys
  | .assets => f.assets

/-- The columns of ids that a branch compares with the filter of a kind, and where. -/
@[simp] def idColumns : ReportType → Side → FilterKind → List (Place × Expr)
  | .usersCourses, .live, .users | .enrollmentTime, .live, .users
  | .surveyAnswers, .live, .users => [(.rows .enrollment, .name "idUser")]
  | .usersCourses, .live, .courses | .enrollmentTime, .live, .courses
  | .surveyAnswers, .live, .courses =>
    [(.rows .enrollment, .name "idCourse"), (.rows .course, .name "idCourse")]
  | .classroomSessions, .live, .users =>
    [(.rows .enrollment, .name "idUser"), (.rows .sessionEnrollment, .name "id_user")]
  | .classroomSessions, .live, .courses =>
    [(.rows .enrollment, .name "idCourse"), (.rows .course, .name "idCourse"),
      (.rows .sessionEnrollment, .name "course_id")]
  | .classroomSessions, .live, .sessions => [(.branch, ClassroomSessions.sessionCol "id_session")]
  | .usersCourses, .archive, .users | .classroomSessions, .archive, .users =>
    [(.branch, archivedCol "user_id")]
  | .usersCourses, .archive, .courses | .classroomSessions, .archive, .courses =>
    [(.branch, archivedCol "course_id")]
  | .classroomSessions, .archive, .sessions =>
    [(.branch, Table.archivedSession.col "session_id")]
  | .surveyAnswers, .live, .surveys => [(.rows .survey, .name "id_poll")]
  | .assetStatistics, .live, .assets => [(.rows .asset, .name "id")]
  | .planStatistics, .live, .users => [(.rows .planUser, .name "idUser")]
  | .planStatistics, .live, .plans =>
    [(.rows .plan, .name "id_path"), (.rows .planUser, .name "id_path")]
  | _, _, _ => []

/-- The column of user ids that a branch compares with the users of custom fields, and where. -/
def userFieldColumn : ReportType → Side → Option (Place × Expr)
  | .usersCourses, .live | .enrollmentTime, .live | .classroomSessions, .live =>
    some (.rows .user, .name "idst")
  | .usersCourses, .archive | .classroomSessions, .archive => some (.branch, archivedCol "user_id")
  | .surveyAnswers, .live => some (.rows .enrollment, .name "idUser")
  | .planStatistics, .live => some (.rows .planUser, .name "idUser")
  | _, _ => none

section Bases

variable {ctx : Context} {e : Expr} {es cs : List Expr}

theorem kept_sources_enrollment (h : e ∈ es) :
    Kept (Restrictions.sources ctx es cs) (.rows .enrollment) e :=
  .of_rows h

theorem kept_sources_user (h : e ∈ Restrictions.users ctx) :
    Kept (Restrictions.sources ctx es cs) (.rows .user) e :=
  .cons (.of_joinRows h)

theorem kept_sources_course (h : e ∈ cs) :
    Kept (Restrictions.sources ctx es cs) (.rows .course) e :=
  .cons (.cons (.of_joinRows h))

theorem mem_enrollments_of_users (h : e ∈ ctx.filters.users.conditions (.name "idUser")) :
    e ∈ Restrictions.enrollments ctx :=
  List.mem_append_left _ (List.mem_append_left _ h)

theorem mem_enrollments_of_courses (h : e ∈ ctx.filters.courses.conditions (.name "idCourse")) :
    e ∈ Restrictions.enrollments ctx :=
  List.mem_append_left _ (List.mem_append_right _ h)

theorem mem_courses (h : e ∈ ctx.filters.courses.conditions (.name "idCourse")) :
    e ∈ Restrictions.courses ctx :=
  List.mem_append_left _ (List.mem_append_left _ h)

theorem mem_archivedUsersAndCourses_of_users
    (h : e ∈ ctx.filters.users.conditions (archivedCol "user_id")) :
    e ∈ Restrictions.archivedUsersAndCourses ctx :=
  List.mem_append_left _ (List.mem_append_left _ h)

theorem mem_archivedUsersAndCourses_of_courses
    (h : e ∈ ctx.filters.courses.conditions (archivedCol "course_id")) :
    e ∈ Restrictions.archivedUsersAndCourses ctx :=
  List.mem_append_right _ h

theorem usersCourses_keeps {side : Side} {k : FilterKind} {p : Place} {c : Expr}
    (h : (p, c) ∈ idColumns .usersCourses side k) (he : e ∈ (ctx.filters.of k).conditions c) :
    Kept ((UsersCourses.base ctx).side side) p e := by
  have harchive (ha : e ∈ Restrictions.archivedUsersAndCourses ctx) :
      Kept (UsersCourses.archive ctx) .branch e :=
    .cons (.of_restrictAll (by simp [ha]))
  cases side <;> cases k <;>
    simp only [idColumns, List.mem_cons, List.not_mem_nil, or_false, Prod.mk.injEq] at h
  case live.users =>
    obtain ⟨rfl, rfl⟩ := h
    exact .append_right (kept_sources_enrollment
      (List.mem_append_left _ (mem_enrollments_of_users he)))
  case live.courses =>
    rcases h with ⟨rfl, rfl⟩ | ⟨rfl, rfl⟩
    · exact .append_right (kept_sources_enrollment
        (List.mem_append_left _ (mem_enrollments_of_courses he)))
    · exact .append_right (kept_sources_course (mem_courses he))
  case archive.users =>
    obtain ⟨rfl, rfl⟩ := h
    exact harchive (mem_archivedUsersAndCourses_of_users he)
  case archive.courses =>
    obtain ⟨rfl, rfl⟩ := h
    exact harchive (mem_archivedUsersAndCourses_of_courses he)

theorem enrollmentTime_keeps {side : Side} {k : FilterKind} {p : Place} {c : Expr}
    (h : (p, c) ∈ idColumns .enrollmentTime side k) (he : e ∈ (ctx.filters.of k).conditions c) :
    Kept ((EnrollmentTime.base ctx).side side) p e := by
  cases side <;> cases k <;>
    simp only [idColumns, List.mem_cons, List.not_mem_nil, or_false, Prod.mk.injEq] at h
  case live.users =>
    obtain ⟨rfl, rfl⟩ := h
    exact .append_right (kept_sources_enrollment (mem_enrollments_of_users he))
  case live.courses =>
    rcases h with ⟨rfl, rfl⟩ | ⟨rfl, rfl⟩
    · exact .append_right (kept_sources_enrollment (mem_enrollments_of_courses he))
    · exact .append_right (kept_sources_course (mem_courses he))

theorem classroomSessions_keeps {side : Side} {k : FilterKind} {p : Place} {c : Expr}
    (h : (p, c) ∈ idColumns .classroomSessions side k)
    (he : e ∈ (ctx.filters.of k).conditions c) :
    Kept ((ClassroomSessions.base ctx).side side) p e := by
  have hsources {p : Place} (hp : Kept (Restrictions.sources ctx
      (Restrictions.enrollments ctx ++ Restrictions.enrollmentDates ctx)
      (Restrictions.courses ctx ++ [.eq (.name "course_type") (.str "classroom")])) p e) :
      Kept (ClassroomSessions.live ctx) p e :=
    .append_right (.append_right (.append_right (.append_right hp)))
  have hsessions (hs : e ∈ ClassroomSessions.sessionEnrollments ctx) :
      Kept (ClassroomSessions.live ctx) (.rows .sessionEnrollment) e :=
    .append_right (.append_right (.append_right (.append_left (.of_joinRows hs))))
  cases side <;> cases k <;>
    simp only [idColumns, List.mem_cons, List.not_mem_nil, or_false, Prod.mk.injEq] at h
  case live.users =>
    rcases h with ⟨rfl, rfl⟩ | ⟨rfl, rfl⟩
    · exact hsources (kept_sources_enrollment
        (List.mem_append_left _ (mem_enrollments_of_users he)))
    · exact hsessions (List.mem_append_left _ (List.mem_append_left _ he))
  case live.courses =>
    rcases h with ⟨rfl, rfl⟩ | ⟨rfl, rfl⟩ | ⟨rfl, rfl⟩
    · exact hsources (kept_sources_enrollment
        (List.mem_append_left _ (mem_enrollments_of_courses he)))
    · exact hsources (kept_sources_course (List.mem_append_left _ (mem_courses he)))
    · exact hsessions (List.mem_append_left _ (List.mem_append_right _ he))
  case live.sessions =>
    obtain ⟨rfl, rfl⟩ := h
    have hs : e ∈ ctx.filters.sessions.conditions (ClassroomSessions.sessionCol "id_session") := he
    exact .append_right (.append_left (.of_restrictAll (by simp [hs])))
  case archive.users =>
    obtain ⟨rfl, rfl⟩ := h
    have hu := mem_archivedUsersAndCourses_of_users he
    exact .append_left (.of_restrictAll (by simp [hu]))
  case archive.courses =>
    obtain ⟨rfl, rfl⟩ := h
    have hc := mem_archivedUsersAndCourses_of_courses he
    exact .append_left (.of_restrictAll (by simp [hc]))
  case archive.sessions =>
    obtain ⟨rfl, rfl⟩ := h
    have hs : e ∈ ctx.filters.sessions.conditions (Table.archivedSession.col "session_id") := he
    exact .append_left (.of_restrictAll (by simp [hs]))

theorem surveyAnswers_keeps {side : Side} {k : FilterKind} {p : Place} {c : Expr}
    (h : (p, c) ∈ idColumns .surveyAnswers side k) (he : e ∈ (ctx.filters.of k).conditions c) :
    Kept ((SurveyAnswers.base ctx).side side) p e := by
  have henrollment (hm : e ∈ SurveyAnswers.enrollmentConditions ctx) :
      Kept (SurveyAnswers.base ctx).live (.rows .enrollment) e :=
    .cons (.cons (.cons (.cons (.of_joinRows hm))))
  cases side <;> cases k <;>
    simp only [idColumns, List.mem_cons, List.not_mem_nil, or_false, Prod.mk.injEq] at h
  case live.users =>
    obtain ⟨rfl, rfl⟩ := h
    have hu : e ∈ ctx.filters.users.conditions (.name "idUser") := he
    exact henrollment (by simp [SurveyAnswers.enrollmentConditions, hu])
  case live.courses =>
    have hc : e ∈ ctx.filters.courses.conditions c := he
    rcases h with ⟨rfl, rfl⟩ | ⟨rfl, rfl⟩
    · exact henrollment (by simp [SurveyAnswers.enrollmentConditions, hc])
    · exact .cons (.cons (.cons (.cons (.cons (.of_joinRows (mem_courses he))))))
  case live.surveys =>
    obtain ⟨rfl, rfl⟩ := h
    exact .cons (.cons (.cons (.cons (.cons (.cons (.cons (.cons (.cons (.of_joinRows he)))))))))

theorem assetStatistics_keeps {side : Side} {k : FilterKind} {p : Place} {c : Expr}
    (h : (p, c) ∈ idColumns .assetStatistics side k) (he : e ∈ (ctx.filters.of k).conditions c) :
    Kept ((AssetStatistics.base ctx).side side) p e := by
  cases side <;> cases k <;>
    simp only [idColumns, List.mem_cons, List.not_mem_nil, or_false, Prod.mk.injEq] at h
  case live.assets =>
    obtain ⟨rfl, rfl⟩ := h
    exact .append_right (.append_right (.of_rows (List.mem_append_left _ he)))

theorem planStatistics_keeps {side : Side} {k : FilterKind} {p : Place} {c : Expr}
    (h : (p, c) ∈ idColumns .planStatistics side k) (he : e ∈ (ctx.filters.of k).conditions c) :
    Kept ((PlanStatistics.base ctx).side side) p e := by
  have husers (hm : e ∈ PlanStatistics.planUsers ctx) :
      Kept (PlanStatistics.base ctx).live (.rows .planUser) e :=
    .append_right (.append_right (.cons (.of_joinRows hm)))
  cases side <;> cases k <;>
    simp only [idColumns, List.mem_cons, List.not_mem_nil, or_false, Prod.mk.injEq] at h
  case live.users =>
    obtain ⟨rfl, rfl⟩ := h
    have hu : e ∈ ctx.filters.users.conditions (.name "idUser") := he
    exact husers (by simp [PlanStatistics.planUsers, hu])
  case live.plans =>
    have hp : e ∈ ctx.filters.plans.conditions c := he
    rcases h with ⟨rfl, rfl⟩ | ⟨rfl, rfl⟩
    · exact .append_right (.append_right (.of_rows hp))
    · exact husers (by simp [PlanStatistics.planUsers, hp])

theorem mem_users (h : e ∈ ctx.userFieldConditions (.name "idst")) : e ∈ Restrictions.users ctx :=
  List.mem_append_left _ h

theorem mem_archivedUsersAndCourses_of_userFields
    (h : e ∈ ctx.userFieldConditions (archivedCol "user_id")) :
    e ∈ Restrictions.archivedUsersAndCourses ctx :=
  List.mem_append_left _ (List.mem_append_right _ h)

end Bases

/-- Every branch keeps the conditions of its filters on its own columns of ids. -/
theorem branch_keeps_filter {ctx : Context} {side : Side} {k : FilterKind} {p : Place} {c e : Expr}
    (h : (p, c) ∈ idColumns ctx.type side k) (he : e ∈ (ctx.filters.of k).conditions c) :
    (Layout.branch ctx side).Keeps p e := by
  refine Kept.branch ?_
  cases ht : ctx.type with
  | usersCourses => exact usersCourses_keeps (ht ▸ h) he
  | classroomSessions => exact classroomSessions_keeps (ht ▸ h) he
  | surveyAnswers => exact surveyAnswers_keeps (ht ▸ h) he
  | assetStatistics => exact assetStatistics_keeps (ht ▸ h) he
  | planStatistics => exact planStatistics_keeps (ht ▸ h) he
  | enrollmentTime => exact enrollmentTime_keeps (ht ▸ h) he

theorem branch_keeps_userField {ctx : Context} {side : Side} {p : Place} {c e : Expr}
    (h : userFieldColumn ctx.type side = some (p, c)) (he : e ∈ ctx.userFieldConditions c) :
    (Layout.branch ctx side).Keeps p e := by
  refine Kept.branch ?_
  cases ht : ctx.type <;> cases side <;> rw [ht] at h <;> cases h
  case usersCourses.live => exact .append_right (kept_sources_user (mem_users he))
  case usersCourses.archive =>
    have ha := mem_archivedUsersAndCourses_of_userFields he
    exact .cons (.of_restrictAll (by simp [ha]))
  case classroomSessions.live =>
    exact .append_right (.append_right (.append_right (.append_right
      (kept_sources_user (mem_users he)))))
  case classroomSessions.archive =>
    have ha := mem_archivedUsersAndCourses_of_userFields he
    exact .append_left (.of_restrictAll (by simp [ha]))
  case surveyAnswers.live =>
    have hm : e ∈ SurveyAnswers.enrollmentConditions ctx := by
      simp [SurveyAnswers.enrollmentConditions, he]
    exact .cons (.cons (.cons (.cons (.of_joinRows hm))))
  case planStatistics.live =>
    have hm : e ∈ PlanStatistics.planUsers ctx := by simp [PlanStatistics.planUsers, he]
    exact .append_right (.append_right (.cons (.of_joinRows hm)))
  case enrollmentTime.live => exact .append_right (kept_sources_user (mem_users he))

/-! ## No kind without a place -/

/-- A type that resolves a kind has a column of its ids on every side that it can have. -/
theorem idColumns_ne_nil {t : ReportType} {side : Side} {k : FilterKind}
    (hk : k ∈ t.filterKinds) (hside : side = .archive → t.supportsArchive = true) :
    idColumns t side k ≠ [] := by
  cases t <;> cases side <;> cases k <;>
    simp_all [ReportType.filterKinds, ReportType.supportsArchive, idColumns]

theorem userFieldColumn_isSome {t : ReportType} {side : Side} (hk : .users ∈ t.filterKinds)
    (hside : side = .archive → t.supportsArchive = true) :
    (userFieldColumn t side).isSome = true := by
  cases t <;> cases side <;>
    simp_all [ReportType.filterKinds, ReportType.supportsArchive, userFieldColumn]

end LearningReports
