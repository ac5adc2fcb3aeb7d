import LearningReports.Proofs.Accounting

/-! # What columns look at

A column is made from the options of the report, the session, the filters and a fixed set of
wordings. Of the other selected fields and of the labels it sees nothing. -/
namespace LearningReports

open Sql (Fragment)

def ResolvedField.untitled (r : ResolvedField) : ResolvedField := { r with title := .null }

/-- What columns look at, and nothing else. -/
def Context.view (ctx : Context) : Context :=
  { ctx with
    definition := { ctx.definition with fields := [] }
    labels := []
    wordings := Wording.all.map fun w =>
      (w.labelKey, (lookup? w.labelKey ctx.wordings).getD (.str w.labelKey))
    customFields := [] }

/-! ## Columns and bases of a view -/

theorem column_view {t : ReportType} {f : Field} {build : Builder} (h : t.column? f = some build)
    (ctx : Context) : build ctx.view = build ctx := by
  refine t.eq_of_map_builders (v := fun b => b ctx.view) (w := fun b => b ctx) h ?_
  cases t with
  | _ => rfl

namespace CustomColumns

variable (ctx : Context) (f : ResolvedField)

theorem user_view (key : Sql.Expr) : user key ctx.view f = user key ctx f := by
  unfold user
  cases kindOf f with
  | _ => rfl

theorem keyed_view (values : Table) (column : String) (key archived : Sql.Expr) :
    keyed values column key archived ctx.view f = keyed values column key archived ctx f := by
  unfold keyed courseLike
  cases kindOf f with
  | _ => rfl

theorem ofEnrollments_view : ofEnrollments ctx.view f = ofEnrollments ctx f := by
  unfold ofEnrollments
  cases f.field.entity with
  | user => exact user_view ..
  | course => exact keyed_view ..
  | _ => rfl

end CustomColumns

theorem customColumn_view (t : ReportType) (ctx : Context) (f : ResolvedField) :
    t.customColumn ctx.view f = t.customColumn ctx f := by
  cases t with
  | usersCourses => exact CustomColumns.ofEnrollments_view ..
  | enrollmentTime => exact CustomColumns.ofEnrollments_view ..
  | assetStatistics => rfl
  | classroomSessions =>
    change ClassroomSessions.customColumn _ f = ClassroomSessions.customColumn _ f
    unfold ClassroomSessions.customColumn
    cases f.field.entity with
    | user => exact CustomColumns.user_view ..
    | course => exact CustomColumns.keyed_view ..
    | session => exact CustomColumns.keyed_view ..
    | _ => rfl
  | surveyAnswers =>
    change SurveyAnswers.customColumn _ f = SurveyAnswers.customColumn _ f
    unfold SurveyAnswers.customColumn
    cases f.field.entity with
    | course => exact CustomColumns.keyed_view ..
    | _ => rfl
  | planStatistics =>
    change PlanStatistics.customColumn _ f = PlanStatistics.customColumn _ f
    unfold PlanStatistics.customColumn
    cases f.field.entity with
    | plan => exact CustomColumns.keyed_view ..
    | _ => rfl

theorem customColumn_title (ctx : Context) (t : ReportType) (f : ResolvedField) (title : Json) :
    t.customColumn ctx { f with title := title } = t.customColumn ctx f := by
  cases t with
  | _ => rfl

theorem base_view (t : ReportType) (ctx : Context) : t.base ctx.view = t.base ctx := by
  cases t with
  | _ => rfl

/-! ## Contexts with the same view -/

section SameView

variable {ctx ctx' : Context} (h : ctx'.view = ctx.view)
include h

theorem Context.type_eq_of_view : ctx'.type = ctx.type := by
  have htype : ctx'.view.type = ctx.view.type := congrArg Context.type h
  exact htype

theorem Layout.base_eq_of_view : ctx'.type.base ctx' = ctx.type.base ctx := by
  rw [Context.type_eq_of_view h, ← base_view ctx.type ctx', h, base_view]

theorem Query.emits_eq_of_view (side : Side) : emits ctx' side = emits ctx side := by
  have hemits : emits ctx'.view side = emits ctx.view side := congrArg (emits · side) h
  exact hemits

variable {text : String} (hresolved : (resolved? ctx' text).map ResolvedField.untitled =
  (resolved? ctx text).map ResolvedField.untitled)
include hresolved

theorem classOf_eq_of_view : classOf ctx' text = classOf ctx text := by
  have hsome := congrArg Option.isSome hresolved
  rw [Option.isSome_map, Option.isSome_map] at hsome
  have hsession : ctx'.view.session = ctx.view.session := congrArg Context.session h
  change ctx'.session = ctx.session at hsession
  rw [classOf, classOf, Context.type_eq_of_view h, hsession, hsome]

theorem columnOf_eq_of_view : columnOf ctx' text = columnOf ctx text := by
  unfold columnOf
  cases hr' : resolved? ctx' text <;> cases hr : resolved? ctx text <;>
    rw [hr, hr'] at hresolved
  case none.none =>
    rw [Context.type_eq_of_view h]
    cases hbuild : (Field.ofId? text).bind ctx.type.column? with
    | none => rfl
    | some build =>
      obtain ⟨f, -, hcolumn⟩ := Option.bind_eq_some_iff.mp hbuild
      change build ctx' = build ctx
      rw [← column_view hcolumn ctx', h, column_view hcolumn]
  case some.some r' r =>
    have hsame : r'.untitled = r.untitled := Option.some.inj hresolved
    have hmaterialized : r'.untitled.isMaterialized = r.untitled.isMaterialized :=
      congrArg ResolvedField.isMaterialized hsame
    change r'.isMaterialized = r.isMaterialized at hmaterialized
    change Layout.customColumn ctx' r' = Layout.customColumn ctx r
    rw [Layout.customColumn, Layout.customColumn, hmaterialized, Context.type_eq_of_view h,
      ← customColumn_title ctx' ctx.type r' .null, ← customColumn_title ctx ctx.type r .null]
    change _ = if _ then ctx.type.customColumn ctx r.untitled else _
    rw [← hsame, ← customColumn_view ctx.type ctx', h, customColumn_view]
    rfl
  case none.some => cases hresolved
  case some.none => cases hresolved

end SameView
end LearningReports
