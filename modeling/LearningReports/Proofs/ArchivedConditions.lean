import LearningReports.Proofs.CallerRestrictions
import LearningReports.Proofs.ScopedQueries

/-! # The same enrollments, live and archived

Live enrollments come from inner queries over enrollments, users and courses, archived ones from one
flat table. Where a report does not ask when an enrollment was archived, both branches keep the same
conditions on users, courses, levels and dates: those of the archive are those of the live rows with
each column replaced by its counterpart. -/
namespace LearningReports

open MonadAttach (CanReturn)
open Sql (Expr Fragment Place Source)
open Text (Occurs)

/-- The columns of the archive that stand for columns of the live rows. -/
def counterparts : List (String × Expr) := [
  ("idUser", archivedCol "user_id"),
  ("idst", archivedCol "user_id"),
  ("id_user", archivedCol "user_id"),
  ("idCourse", archivedCol "course_id"),
  ("course_id", archivedCol "course_id"),
  ("level", archivedCol "enrollment_level"),
  ("date_inscr", archivedCol "enrollment_enrolled_at"),
  ("date_complete", archivedCol "enrollment_completed_at"),
  ("date_end", CourseColumns.archivedEnd)]

/-! ## Replacing columns -/

namespace Sql.Expr

variable (columns : List (String × Expr))

/-- The expression with other columns. The item and the condition of an inner query are about rows
of its own and stay as they are. -/
def replace : Expr → Expr
  | .name column => (lookup? column columns).getD (.name column)
  | .pair first rest => .pair first.replace rest.replace
  | .call function arguments => .call function arguments.replace
  | .aggregate function argument => .aggregate function argument.replace
  | .cast e type => .cast e.replace type
  | .tryCast e type => .tryCast e.replace type
  | .op o left right => .op o left.replace right.replace
  | .isNull e => .isNull e.replace
  | .notNull e => .notNull e.replace
  | .not e => .not e.replace
  | .paren e => .paren e.replace
  | .choice arms => .choice arms.replace
  | .arm condition value rest => .arm condition.replace value.replace rest.replace
  | .otherwise value => .otherwise value.replace
  | .choose condition yes no => .choose condition.replace yes.replace no.replace
  | .apply function argument => .apply function argument.replace
  | .inSelect negated e item table condition => .inSelect negated e.replace item table condition
  | e => e

theorem replace_joined (o : Operator) (e : Expr) (es : List Expr) :
    (joined o e es).replace columns =
      joined o (e.replace columns) (es.map (replace columns)) := by
  induction es generalizing e with
  | nil => rfl
  | cons next rest ih => exact ih (.op o e next)

end Sql.Expr

section Conditions

variable (columns : List (String × Expr))

theorem IdFilter.replace_conditions (f : IdFilter) (column : Expr) :
    (f.conditions column).map (Expr.replace columns) =
      f.conditions (column.replace columns) := by
  match f with
  | .unrestricted => rfl
  | .only [] => rfl
  | .only (_ :: _) => rfl

namespace DateFilter

theorem replace_range? (column : Expr) (o : DateOption) :
    (range? column o).map (Expr.replace columns) = range? (column.replace columns) o := by
  unfold range?
  cases o.first.isPresent <;> cases o.last.isPresent <;> rfl

theorem replace_relative? (column : Expr) (operator : String) (days : Int) :
    (relative? column operator days).map (Expr.replace columns) =
      relative? (column.replace columns) operator days := by
  unfold relative?
  split_ifs <;> rfl

theorem replace_condition? (column : Expr) (o : Option DateOption) :
    (condition? column o).map (Expr.replace columns) =
      condition? (column.replace columns) o := by
  unfold condition?
  cases o with
  | none => rfl
  | some o =>
    dsimp only
    split
    · rfl
    · split
      · exact replace_range? columns column o
      · exact replace_relative? columns column o.operator o.days

theorem replace_combine (how : DateConditions) (es : List Expr) :
    (combine how es).map (Expr.replace columns) = combine how (es.map (Expr.replace columns)) := by
  cases es with
  | nil => rfl
  | cons e es =>
    simp only [combine, Option.map_some, List.map_cons, Expr.replace, Expr.replace_joined,
      List.map_map, Function.comp_def]

theorem replace_combined (how : DateConditions) (pairs : List Dated) :
    (combined how pairs).map (Expr.replace columns) =
      combined how (pairs.map fun (column, o) => (column.replace columns, o)) := by
  have hconditions : (conditions pairs).map (Expr.replace columns) =
      conditions (pairs.map fun (column, o) => (column.replace columns, o)) := by
    simp only [conditions, List.map_filterMap, List.filterMap_map]
    exact List.filterMap_congr fun p _ => replace_condition? columns p.1 p.2
  rw [combined, combined, combined?, combined?, ← hconditions, ← replace_combine]
  cases combine how (conditions pairs) with
  | _ => rfl

end DateFilter

theorem Context.replace_userFieldConditions (ctx : Context) (column : Expr) :
    (ctx.userFieldConditions column).map (Expr.replace columns) =
      ctx.userFieldConditions (column.replace columns) := by
  unfold userFieldConditions
  cases ctx.userConditions with
  | _ => rfl

theorem Context.replace_dates (ctx : Context) (pairs : List DateFilter.Dated) :
    (ctx.dates pairs).map (Expr.replace columns) =
      ctx.dates (pairs.map fun (column, o) => (column.replace columns, o)) :=
  DateFilter.replace_combined columns ctx.definition.conditions pairs

theorem Restrictions.replace_learners (ctx : Context) (level : Expr) :
    (learners ctx level).map (Expr.replace columns) = learners ctx (level.replace columns) := by
  unfold learners
  cases ctx.onlyLearners with
  | _ => rfl

end Conditions

/-! ## Conditions in the text -/

section Texts

variable {ctx : Context} {engine : Sql.Dialect} {e : Expr}

theorem endsSolid_of_mem_dates {pairs : List DateFilter.Dated} (h : e ∈ ctx.dates pairs) :
    Text.EndsSolid (engine.render e) := by
  unfold Context.dates DateFilter.combined DateFilter.combined? at h
  cases hc : DateFilter.conditions pairs with
  | nil =>
    rw [hc] at h
    cases h
  | cons first rest =>
    rw [hc] at h
    cases List.mem_singleton.mp h
    exact engine.endsSolid_render rfl

theorem endsSolid_of_mem_learners {level : Expr} (h : e ∈ Restrictions.learners ctx level) :
    Text.EndsSolid (engine.render e) := by
  cases List.mem_singleton.mp (mem_when.mp h).2
  exact engine.endsSolid_render rfl

end Texts

/-! ## What both branches ask -/

/-- What both branches ask of an enrollment. -/
inductive Criterion where
  | users
  | userFields
  | courses
  | learners
  | courseEnd
  | enrollmentDates

def Context.isOnSessions (ctx : Context) : Bool := ctx.type == .classroomSessions

namespace Criterion

/-- The conditions of the criterion on live rows, with the tables of the inner queries that keep
them. Reports on sessions ask for users and courses once more in the enrollments in sessions. -/
def live (ctx : Context) : Criterion → List (Table × List Expr)
  | .users => (.enrollment, ctx.filters.users.conditions (.name "idUser"))
    :: when ctx.isOnSessions
      [(.sessionEnrollment, ctx.filters.users.conditions (.name "id_user"))]
  | .userFields => [(.user, ctx.userFieldConditions (.name "idst"))]
  | .courses => (.enrollment, ctx.filters.courses.conditions (.name "idCourse"))
    :: (.course, ctx.filters.courses.conditions (.name "idCourse"))
    :: when ctx.isOnSessions
      [(.sessionEnrollment, ctx.filters.courses.conditions (.name "course_id"))]
  | .learners => [(.enrollment, Restrictions.learners ctx (.name "level"))]
  | .courseEnd =>
    [(.course, ctx.dates [(.name "date_end", ctx.definition.courseExpirationDate)])]
  | .enrollmentDates => [(.enrollment, Restrictions.enrollmentDates ctx)]

def archived (ctx : Context) : Criterion → List Expr
  | .users => ctx.filters.users.conditions (archivedCol "user_id")
  | .userFields => ctx.userFieldConditions (archivedCol "user_id")
  | .courses => ctx.filters.courses.conditions (archivedCol "course_id")
  | .learners => Restrictions.archivedLearners ctx
  | .courseEnd => ctx.dates [(CourseColumns.archivedEnd, ctx.definition.courseExpirationDate)]
  | .enrollmentDates => ctx.dates [
      (archivedCol "enrollment_enrolled_at", ctx.definition.enrollmentDate),
      (archivedCol "enrollment_completed_at", ctx.definition.completionDate)]

theorem exists_iff {p : Criterion → Prop} : (∃ k, p k) ↔
    p .users ∨ p .userFields ∨ p .courses ∨ p .learners ∨ p .courseEnd ∨ p .enrollmentDates := by
  constructor
  · rintro ⟨k, hk⟩
    cases k <;> simp [hk]
  · rintro (h | h | h | h | h | h) <;> exact ⟨_, h⟩

theorem endsSolid_archived {ctx : Context} {engine : Sql.Dialect} {k : Criterion} {e : Expr}
    (h : e ∈ k.archived ctx) : Text.EndsSolid (engine.render e) := by
  cases k with
  | users => exact IdFilter.endsSolid_of_mem_conditions h
  | userFields => exact endsSolid_userFieldConditions h
  | courses => exact IdFilter.endsSolid_of_mem_conditions h
  | learners => exact endsSolid_of_mem_learners h
  | courseEnd => exact endsSolid_of_mem_dates h
  | enrollmentDates => exact endsSolid_of_mem_dates h

/-- The archive keeps the conditions of the live rows on the columns that stand for theirs, and they
end in no blank, so that they show in the text as they are. -/
theorem archived_of_mem_live {ctx : Context} {k : Criterion} {t : Table} {es : List Expr}
    (h : (t, es) ∈ k.live ctx) : es.map (Expr.replace counterparts) = k.archived ctx ∧
      ∀ e ∈ es, ∀ engine : Sql.Dialect, Text.EndsSolid (engine.render e) := by
  have hfilter (f : IdFilter) (column : Expr) :
      (f.conditions column).map (Expr.replace counterparts) =
        f.conditions (column.replace counterparts) ∧
      ∀ e ∈ f.conditions column, ∀ engine : Sql.Dialect, Text.EndsSolid (engine.render e) :=
    ⟨f.replace_conditions counterparts column, fun _ he _ => f.endsSolid_of_mem_conditions he⟩
  cases k with
  | users =>
    rcases List.mem_cons.mp h with h | h
    · cases h
      exact hfilter ctx.filters.users (.name "idUser")
    · cases List.mem_singleton.mp (mem_when.mp h).2
      exact hfilter ctx.filters.users (.name "id_user")
  | userFields =>
    cases List.mem_singleton.mp h
    exact ⟨ctx.replace_userFieldConditions counterparts (.name "idst"),
      fun _ he _ => endsSolid_userFieldConditions he⟩
  | courses =>
    rcases List.mem_cons.mp h with h | h
    · cases h
      exact hfilter ctx.filters.courses (.name "idCourse")
    · rcases List.mem_cons.mp h with h | h
      · cases h
        exact hfilter ctx.filters.courses (.name "idCourse")
      · cases List.mem_singleton.mp (mem_when.mp h).2
        exact hfilter ctx.filters.courses (.name "course_id")
  | learners =>
    cases List.mem_singleton.mp h
    exact ⟨Restrictions.replace_learners counterparts ctx (.name "level"),
      fun _ he _ => endsSolid_of_mem_learners he⟩
  | courseEnd =>
    cases List.mem_singleton.mp h
    exact ⟨ctx.replace_dates counterparts _, fun _ he _ => endsSolid_of_mem_dates he⟩
  | enrollmentDates =>
    cases List.mem_singleton.mp h
    exact ⟨ctx.replace_dates counterparts _, fun _ he _ => endsSolid_of_mem_dates he⟩

theorem live_ne_nil (ctx : Context) (k : Criterion) : k.live ctx ≠ [] := by
  cases k with
  | _ => exact List.cons_ne_nil _ _

end Criterion

/-- The tables whose rows the live branch restricts in inner queries. -/
def liveTables (ctx : Context) : List Table :=
  [.enrollment, .user, .course] ++ when ctx.isOnSessions [.sessionEnrollment]

def Context.courseKind (ctx : Context) : CourseKind :=
  (ctx.definition.courses.map (·.kind)).getD .all

def liveOnly (ctx : Context) (t : Table) : List Expr :=
  when (t = .user) (Restrictions.userState ctx)
  ++ when (t = .course) (Restrictions.courseKind ctx.courseKind (.name "course_type")
    ++ when ctx.isOnSessions [.eq (.name "course_type") (.str "classroom")])
  ++ when (t = .sessionEnrollment) (ClassroomSessions.taught ctx)

def archiveOnly (ctx : Context) : List Expr :=
  if ctx.isOnSessions then
    .eq (CourseColumns.archived "type") (.str "classroom")
    :: ctx.filters.sessions.conditions (Table.archivedSession.col "session_id")
    ++ ClassroomSessions.statusFilter ctx.definition.enrollment
      ClassroomSessions.archivedStatus none
    ++ ClassroomSessions.attendanceFilter ctx.definition.attendance
      (ClassroomSessions.archived "attendance_info" "type")
    ++ ClassroomSessions.datesFilter ctx.definition.sessionDates
      (.apply .readTime (ClassroomSessions.archived "session_info" "start_at"))
      (.apply .readTime (ClassroomSessions.archived "session_info" "end_at")) none
  else
    Restrictions.courseKind ctx.courseKind (CourseColumns.archived "type")
    ++ EnrollmentColumns.statusFilter ctx.definition.enrollment
      (archivedCol "enrollment_status") none

/-! ## The conditions of a branch -/

namespace Sql

theorem Source.Restricts.handle_eq {t : Table} {es : List Expr} {s : Source}
    (h : s.Restricts t es) : s.handle? = some t.handle := by
  cases h with
  | _ => rfl

theorem Source.Restricts.unique {t : Table} {es fs : List Expr} {s : Source}
    (h : s.Restricts t es) (h' : s.Restricts t fs) : es = fs := by
  cases h with
  | _ =>
    cases h' with
    | _ => rfl

theorem Branch.WellScoped.source_unique {b : Branch} (hb : b.WellScoped) {s s' : Source}
    {handle : String} (hs : s ∈ b.sources) (hs' : s' ∈ b.sources) (h : s.handle? = some handle)
    (h' : s'.handle? = some handle) : s = s' := by
  have hone : b.sources.filter (·.handle? == some handle) = [s] :=
    filter_eq_singleton hb.distinct hs h
  have hmem : s' ∈ b.sources.filter (·.handle? == some handle) :=
    List.mem_filter.mpr ⟨hs', beq_iff_eq.mpr h'⟩
  rw [hone] at hmem
  exact (List.mem_singleton.mp hmem).symm

theorem Branch.WellScoped.keeps_rows_iff {b : Branch} (hb : b.WellScoped) {t : Table}
    {es : List Expr} {s : Source} (hs : s ∈ b.sources) (hes : s.Restricts t es) {e : Expr} :
    b.Keeps (.rows t) e ↔ e ∈ es := by
  constructor
  · rintro ⟨s', hs', fs, hfs, he⟩
    cases hb.source_unique hs hs' hes.handle_eq hfs.handle_eq
    rwa [hes.unique hfs]
  · exact fun he => ⟨s, hs, es, hes, he⟩

end Sql

theorem restrictions_branch (ctx : Context) (side : Side) : (Layout.branch ctx side).restrictions =
    ((ctx.type.base ctx).side side).filterMap Fragment.restriction? := by
  have hparts : ((Layout.columns ctx).flatMap (·.2.parts side)).filterMap
      Fragment.restriction? = [] := by
    refine List.filterMap_eq_nil_iff.mpr fun f hf => ?_
    have hsupport := isSupport_of_mem_parts hf
    cases f with
    | restrict => cases hsupport
    | _ => rfl
  have hselection : (Layout.selection ctx (·.on side)).filterMap Fragment.restriction? = [] := by
    refine List.filterMap_eq_nil_iff.mpr fun f hf => ?_
    unfold Layout.selection at hf
    split at hf
    · cases List.mem_singleton.mp hf
      rfl
    · obtain ⟨kc, -, rfl⟩ := List.mem_map.mp hf
      rfl
  rw [Layout.branch_eq, Sql.Branch.restrictions_ofFragments, List.filterMap_append,
    List.filterMap_append, hparts, hselection, List.append_nil, List.append_nil]

@[simp] theorem restrictions_restrictAll (es : List Expr) :
    (restrictAll es).filterMap Fragment.restriction? = es.map .and := by
  induction es with
  | nil => rfl
  | cons e es ih => exact congrArg (_ :: ·) ih

theorem mem_map_and {e : Expr} {es : List Expr} :
    Sql.Restriction.and e ∈ es.map .and ↔ e ∈ es := by
  simp

section Bases

variable {ctx : Context} {e : Expr}

theorem mem_archivedDates (h : DateFilter.isActive ctx.definition.archivingDate = false) :
    e ∈ Restrictions.archivedDates ctx ↔
      e ∈ Criterion.archived ctx .courseEnd ∨ e ∈ Criterion.archived ctx .enrollmentDates := by
  have hnone : Restrictions.archivedDates ctx =
      Criterion.archived ctx .courseEnd ++ Criterion.archived ctx .enrollmentDates := by
    have hcondition : DateFilter.condition? (archivedCol "created_at")
        ctx.definition.archivingDate = none := DateFilter.condition?_of_inactive h
    simp only [Restrictions.archivedDates, Criterion.archived, Context.dates,
      DateFilter.combined, DateFilter.combined?, DateFilter.conditions, List.filterMap_cons,
      List.filterMap_nil, hcondition]
  rw [hnone, List.mem_append]

/-- The archive has the conditions of the criteria and its own, and no others. -/
theorem keeps_archive_iff (htype : ctx.type.supportsArchive = true)
    (hdate : DateFilter.isActive ctx.definition.archivingDate = false) :
    (Layout.branch ctx .archive).Keeps .branch e ↔
      (∃ k, e ∈ Criterion.archived ctx k) ∨ e ∈ archiveOnly ctx := by
  change .and e ∈ (Layout.branch ctx .archive).restrictions ↔ _
  rw [restrictions_branch, Criterion.exists_iff]
  have hdates := mem_archivedDates (e := e) hdate
  cases ht : ctx.type with
  | usersCourses =>
    have hsessions : ctx.isOnSessions = false := by rw [Context.isOnSessions, ht]; rfl
    change .and e ∈ (UsersCourses.archive ctx).filterMap Fragment.restriction? ↔ _
    simp only [UsersCourses.archive, Restrictions.archive, List.filterMap_cons,
      Fragment.restriction?, restrictions_restrictAll, mem_map_and, List.mem_append, hdates]
    simp only [Criterion.archived, archiveOnly, hsessions, Restrictions.archivedUsersAndCourses,
      Context.courseKind, List.mem_append, Bool.false_eq_true, if_false, or_assoc, or_left_comm]
  | classroomSessions =>
    have hsessions : ctx.isOnSessions = true := by rw [Context.isOnSessions, ht]; rfl
    change .and e ∈ (ClassroomSessions.archive ctx).filterMap Fragment.restriction? ↔ _
    simp only [ClassroomSessions.archive, Restrictions.archive, Table.join, List.filterMap_append,
      List.filterMap_cons, List.filterMap_nil, List.nil_append, Fragment.restriction?,
      restrictions_restrictAll, mem_map_and, List.mem_append, List.mem_cons, hdates]
    simp only [Criterion.archived, archiveOnly, hsessions, Restrictions.archivedUsersAndCourses,
      List.mem_append, List.mem_cons, if_true, or_assoc, or_left_comm]
  | _ =>
    rw [ht] at htype
    cases htype

/-- The live branch asks for the condition in the rows of the table, for a criterion or on its
own. -/
def AskedOfRows (ctx : Context) (t : Table) (e : Expr) : Prop :=
  (∃ k es, (t, es) ∈ Criterion.live ctx k ∧ e ∈ es) ∨ e ∈ liveOnly ctx t

section Asked

attribute [local simp] AskedOfRows Criterion.exists_iff Criterion.live liveOnly mem_when
  Table.enrollment Table.user Table.course Table.sessionEnrollment

theorem askedOfRows_enrollment : AskedOfRows ctx .enrollment e ↔
    e ∈ Restrictions.enrollments ctx ++ Restrictions.enrollmentDates ctx := by
  simp [Restrictions.enrollments]

theorem askedOfRows_user : AskedOfRows ctx .user e ↔ e ∈ Restrictions.users ctx := by
  simp [Restrictions.users]

theorem askedOfRows_course : AskedOfRows ctx .course e ↔ e ∈ Restrictions.courses ctx ++
    when ctx.isOnSessions [.eq (.name "course_type") (.str "classroom")] := by
  simp [Restrictions.courses, Context.courseKind, or_assoc, or_left_comm]

theorem askedOfRows_sessionEnrollment (h : ctx.isOnSessions = true) :
    AskedOfRows ctx .sessionEnrollment e ↔ e ∈ ClassroomSessions.sessionEnrollments ctx := by
  simp [h, ClassroomSessions.sessionEnrollments, or_assoc]

end Asked

theorem mem_sources_live {s : Source} (h : .source s ∈ (ctx.type.base ctx).live) :
    s ∈ (Layout.branch ctx .live).sources :=
  Sql.Branch.mem_sources_ofFragments (List.mem_append_left _ (List.mem_append_left _ h))

/-- The live branch asks of the rows of its tables what the criteria and itself ask, and nothing
else. -/
theorem keeps_live_iff (htype : ctx.type.supportsArchive = true) {t : Table}
    (ht : t ∈ liveTables ctx) :
    (Layout.branch ctx .live).Keeps (.rows t) e ↔ AskedOfRows ctx t e := by
  have hscoped : (Layout.branch ctx .live).WellScoped := Layout.wellScoped_branch rfl
  have hrows {es : List Expr} {s : Source} (hs : .source s ∈ (ctx.type.base ctx).live)
      (hes : s.Restricts t es) (hasked : AskedOfRows ctx t e ↔ e ∈ es) :
      (Layout.branch ctx .live).Keeps (.rows t) e ↔ AskedOfRows ctx t e :=
    (hscoped.keeps_rows_iff (mem_sources_live hs) hes).trans hasked.symm
  cases hct : ctx.type with
  | usersCourses =>
    have hsessions : ctx.isOnSessions = false := by rw [Context.isOnSessions, hct]; rfl
    have hbase : (ctx.type.base ctx).live = UsersCourses.live ctx := by rw [hct]; rfl
    rw [hbase] at hrows
    simp only [liveTables, hsessions, when, Bool.false_eq_true, if_false, List.append_nil,
      List.mem_cons, List.not_mem_nil, or_false] at ht
    rcases ht with rfl | rfl | rfl
    · exact hrows (.head _) .first askedOfRows_enrollment
    · exact hrows (.tail _ (.head _)) .join askedOfRows_user
    · refine hrows (.tail _ (.tail _ (.head _))) .join ?_
      rw [askedOfRows_course, hsessions]
      simp [when]
  | classroomSessions =>
    have hsessions : ctx.isOnSessions = true := by rw [Context.isOnSessions, hct]; rfl
    have hbase : (ctx.type.base ctx).live = ClassroomSessions.live ctx := by rw [hct]; rfl
    rw [hbase] at hrows
    simp only [liveTables, hsessions, when, if_true, List.cons_append, List.nil_append,
      List.mem_cons, List.not_mem_nil, or_false] at ht
    rcases ht with rfl | rfl | rfl | rfl
    · exact hrows (.head _) .first askedOfRows_enrollment
    · exact hrows (.tail _ (.head _)) .join askedOfRows_user
    · refine hrows (.tail _ (.tail _ (.head _))) .join ?_
      rw [askedOfRows_course, hsessions]
      rfl
    · exact hrows (.tail _ (.tail _ (.tail _ (.head _)))) .join
        (askedOfRows_sessionEnrollment hsessions)
  | _ =>
    rw [hct] at htype
    cases htype

end Bases

/-! ## Filtered alike -/

/-- Each criterion restricts live rows, and the archive has the same conditions on the columns that
stand for theirs. Apart from the criteria, each branch asks only for what it has on its own. -/
structure FilteredAlike (ctx : Context) (engine : Sql.Dialect) : Prop where
  present : ∀ k : Criterion, k.live ctx ≠ []
  same : ∀ (k : Criterion) (t : Table) (es : List Expr), (t, es) ∈ k.live ctx →
    es.map (Expr.replace counterparts) = k.archived ctx ∧ (es = [] ↔ k.archived ctx = [])
  liveCarries : ∀ (k : Criterion) (t : Table) (es : List Expr), (t, es) ∈ k.live ctx →
    Carries engine (Layout.branch ctx .live) (.rows t) es
  archiveCarries : ∀ k : Criterion,
    Carries engine (Layout.branch ctx .archive) .branch (k.archived ctx)
  live : ∀ t ∈ liveTables ctx, ∀ e,
    (Layout.branch ctx .live).Keeps (.rows t) e ↔ AskedOfRows ctx t e
  archive : ∀ e, (Layout.branch ctx .archive).Keeps .branch e ↔
    (∃ k : Criterion, e ∈ k.archived ctx) ∨ e ∈ archiveOnly ctx

theorem mem_liveTables {ctx : Context} {k : Criterion} {t : Table} {es : List Expr}
    (h : (t, es) ∈ k.live ctx) : t ∈ liveTables ctx := by
  have htables : (k.live ctx).map Prod.fst ⊆ liveTables ctx := by
    cases hon : ctx.isOnSessions
    all_goals cases k with
    | _ => simp [Criterion.live, liveTables, when, hon]
  exact htables (List.mem_map_of_mem h)

theorem filteredAlike {ctx : Context} (engine : Sql.Dialect)
    (htype : ctx.type.supportsArchive = true)
    (hdate : DateFilter.isActive ctx.definition.archivingDate = false) :
    FilteredAlike ctx engine where
  present := Criterion.live_ne_nil ctx
  same k t es h := by
    have hsame := (Criterion.archived_of_mem_live h).1
    exact ⟨hsame, by rw [← hsame, List.map_eq_nil_iff]⟩
  liveCarries k t es h := by
    refine carries_of_keeps (fun e he => ?_) fun e he =>
      (Criterion.archived_of_mem_live h).2 e he engine
    exact (keeps_live_iff htype (mem_liveTables h)).mpr (.inl ⟨k, es, h, he⟩)
  archiveCarries k :=
    carries_of_keeps (fun e he => (keeps_archive_iff htype hdate).mpr (.inl ⟨k, he⟩))
      fun e he => Criterion.endsSolid_archived he
  live t ht e := keeps_live_iff htype ht
  archive e := keeps_archive_iff htype hdate

section Compilation

variable {m : Type → Type} [Monad m] [MonadExceptOf Failure m] [MonadAttach m] [LawfulService m]

/-- A report that may have archived enrollments and does not ask when they were archived filters
live and archived enrollments alike, whatever filters were resolved. -/
theorem compile_filters_alike {dir : Directory m} {w : Warehouse} {d : Definition} {s : Session}
    {engine : Sql.Dialect} {o : CompileOptions} {r : Compiled}
    (htype : d.type.supportsArchive = true)
    (hdate : DateFilter.isActive d.archivingDate = false)
    (h : CanReturn (Report.compile dir w d s engine o) r) :
    ∃ ctx, Gathered dir w d s o.checkVisibility ctx ∧
      r.sql = engine.renderQuery (Query.ofContext ctx o.limit o.use) ∧
      (∀ side, Query.emits ctx side = true →
        Occurs (engine.renderBranch (Layout.branch ctx side)) r.sql) ∧
      FilteredAlike ctx engine := by
  obtain ⟨-, ctx, -, hctx, rfl⟩ := gathered_of_compile h
  refine ⟨ctx, hctx, rfl, fun side hside => ?_, ?_⟩
  · exact occurs_renderQuery (Query.mem_branchesOf.mpr ⟨side, hside, rfl⟩)
  · rw [← hctx.definition] at htype hdate
    exact filteredAlike engine htype hdate

end Compilation

def onSomeLearners : Definition :=
  { idReport := "", type := .classroomSessions, conditions := .atLeastOne
    users := some { all := false, users := [{ id := 2 }, { id := 3 }], showOnlyLearners := true }
    courses := some { all := false }
    enrollment := some { scope := .activeAndArchived }
    enrollmentDate := some { isAny := false, type := "relative", operator := "isAfter", days := 9 }
    completionDate := some { isAny := false, type := "range", first := .str "2024-01-31" }
    courseExpirationDate :=
      some { isAny := false, type := "relative", operator := "expiringIn", days := 5 } }

theorem compile_filters_alike_learners :
    ∃ r, Report.compile (Records.directory { session := archivist }) .complete onSomeLearners
        archivist .athena {} = .ok r ∧
      onSomeLearners.type.supportsArchive = true ∧
      DateFilter.isActive onSomeLearners.archivingDate = false ∧
      ∃ ctx, Gathered (m := Outcome) (Records.directory { session := archivist }) .complete
          onSomeLearners archivist true ctx ∧
        r.sql = Sql.Dialect.athena.renderQuery (Query.ofContext ctx 0 {}) ∧
        (∀ side, Query.emits ctx side = true →
          Occurs (Sql.Dialect.athena.renderBranch (Layout.branch ctx side)) r.sql) ∧
        FilteredAlike ctx .athena := by
  obtain ⟨r, hr⟩ : ∃ r, Report.compile (Records.directory { session := archivist }) .complete
      onSomeLearners archivist .athena {} = .ok r := ⟨_, rfl⟩
  have hreturn : CanReturn (Report.compile (m := Outcome)
      (Records.directory { session := archivist }) .complete onSomeLearners archivist .athena {})
      r := hr
  exact ⟨r, hr, rfl, rfl, compile_filters_alike rfl rfl hreturn⟩

end LearningReports
