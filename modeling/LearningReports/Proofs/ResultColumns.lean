import LearningReports.Proofs.ColumnParts
import LearningReports.Proofs.Sides

/-! # Result columns of a branch

A branch selects one item for each column of the report, in order, and nothing besides. -/
namespace LearningReports

open Sql (Expr Fragment)

def Column.on (c : Column) : Side → Expr
  | .live => c.live
  | .archive => c.archived

def Column.parts (c : Column) : Side → List Fragment
  | .live => c.liveParts
  | .archive => c.archiveParts

theorem Layout.branch_eq (ctx : Context) (side : Side) :
    Layout.branch ctx side = .ofFragments ((ctx.type.base ctx).side side
      ++ (Layout.columns ctx).flatMap (·.2.parts side) ++ Layout.selection ctx (·.on side)) := by
  cases side <;> rfl

def selectedOf (fs : List Fragment) : List (Expr × Expr) := fs.filterMap Fragment.selected?

@[simp] theorem selectedOf_append (fs gs : List Fragment) :
    selectedOf (fs ++ gs) = selectedOf fs ++ selectedOf gs :=
  List.filterMap_append

@[simp] theorem selectedOf_restrictAll (es : List Expr) : selectedOf (restrictAll es) = [] := by
  unfold selectedOf restrictAll
  rw [List.filterMap_map, List.filterMap_eq_nil_iff]
  intro e _
  rfl

theorem selectedOf_when {condition : Bool} {fs : List Fragment} (h : selectedOf fs = []) :
    selectedOf (when condition fs) = [] := by
  cases condition with
  | true => exact h
  | false => rfl

@[simp] theorem selectedOf_sources (ctx : Context) (es cs : List Expr) :
    selectedOf (Restrictions.sources ctx es cs) = [] := rfl

theorem selectedOf_base (ctx : Context) (side : Side) :
    selectedOf ((ctx.type.base ctx).side side) = [] := by
  cases ctx.type <;> cases side
  case usersCourses.live =>
    change selectedOf (UsersCourses.live ctx) = []
    simp [UsersCourses.live]
  case usersCourses.archive =>
    exact selectedOf_restrictAll _
  case classroomSessions.live =>
    have hlearners : selectedOf (when ctx.onlyLearners [ClassroomSessions.joinInstructor,
        .restrict (.and (.isNull (Table.sessionInstructor.col "id_user")))]) = [] :=
      selectedOf_when rfl
    change selectedOf (ClassroomSessions.live ctx) = []
    simp only [ClassroomSessions.live, selectedOf_append, selectedOf_sources, hlearners,
      selectedOf_restrictAll]
    rfl
  case classroomSessions.archive =>
    exact selectedOf_restrictAll _
  case surveyAnswers.live => rfl
  case surveyAnswers.archive => rfl
  case assetStatistics.live =>
    change selectedOf (AssetStatistics.base ctx).live = []
    simp only [AssetStatistics.base, selectedOf_append, selectedOf_restrictAll]
    rfl
  case assetStatistics.archive => rfl
  case planStatistics.live =>
    have hcompletion : selectedOf (PlanStatistics.completionParts ctx) = [] := by
      unfold PlanStatistics.completionParts
      split <;> rfl
    change selectedOf (PlanStatistics.base ctx).live = []
    simp only [PlanStatistics.base, selectedOf_append, hcompletion]
    rfl
  case planStatistics.archive => rfl
  case enrollmentTime.live =>
    change selectedOf (EnrollmentTime.base ctx).live = []
    simp [EnrollmentTime.base]
  case enrollmentTime.archive => rfl

/-- All that columns add to a branch are joins, grouping keys and named queries. -/
theorem isSupport_of_mem_parts {ctx : Context} {side : Side} {f : Fragment}
    (h : f ∈ (Layout.columns ctx).flatMap (·.2.parts side)) : f.isSupport = true := by
  obtain ⟨⟨key, c⟩, hc, hpart⟩ := List.mem_flatMap.mp h
  have hsupported := supported_of_mem_columns hc
  cases side with
  | live => exact List.all_eq_true.mp hsupported.live f hpart
  | archive => exact List.all_eq_true.mp hsupported.archive f hpart

theorem selectedOf_parts (ctx : Context) (side : Side) :
    selectedOf ((Layout.columns ctx).flatMap (·.2.parts side)) = [] :=
  List.filterMap_eq_nil_iff.mpr fun _ hf =>
    Fragment.selected?_of_isSupport (isSupport_of_mem_parts hf)

/-- A branch selects its columns under their labels, or the placeholder when there are none. -/
theorem select_branch (ctx : Context) (side : Side) :
    (Layout.branch ctx side).select =
      if Layout.columns ctx = [] then [(.null, .label "-")]
      else (Layout.columns ctx).map fun kc => (kc.2.on side, Layout.aliasOf ctx kc.1) := by
  rw [Layout.branch_eq, Sql.Branch.select_ofFragments]
  change selectedOf _ = _
  rw [selectedOf_append, selectedOf_append, selectedOf_base, selectedOf_parts]
  unfold Layout.selection
  cases hc : Layout.columns ctx with
  | nil => rfl
  | cons kc rest =>
    rw [if_neg (List.cons_ne_nil kc rest)]
    simp only [List.nil_append, selectedOf, List.filterMap_map]
    rw [← List.filterMap_eq_map]
    rfl

/-- What a branch consists of before anything is selected. -/
def Layout.support (ctx : Context) (side : Side) : Sql.Branch :=
  .ofFragments ((ctx.type.base ctx).side side ++ (columns ctx).flatMap (·.2.parts side))

theorem branch_eq_support (ctx : Context) (side : Side) : Layout.branch ctx side =
    { Layout.support ctx side with select := (Layout.branch ctx side).select } := by
  have hselections : ∀ f ∈ Layout.selection ctx (·.on side), f.selected?.isSome = true := by
    unfold Layout.selection
    split
    · exact List.forall_mem_singleton.mpr rfl
    · intro f hf
      obtain ⟨kc, -, rfl⟩ := List.mem_map.mp hf
      rfl
  rw [Layout.branch_eq, Sql.Branch.ofFragments, Sql.Branch.addAll_append,
    Sql.Branch.addAll_of_selections hselections]
  rfl

end LearningReports
