import LearningReports.Proofs.ImportedFields
import LearningReports.Proofs.SortedColumns
import Mathlib.Data.List.Nodup

/-! # Imported orders

A legacy report names the column that its rows are sorted by with the section and the key of a
field. If the section selects the key, the compiled query is sorted by the field's alias in the
given direction. Else it is sorted as usual for the type. -/
namespace LearningReports

open MonadAttach (CanReturn)

/-! ## Names of sections -/

namespace Text

theorem append_dot_inj {first first' rest rest' : String} (h : '.' ∉ first.toList)
    (h' : '.' ∉ first'.toList) (heq : first ++ "." ++ rest = first' ++ "." ++ rest') :
    first = first' ∧ rest = rest' := by
  have hcut {first rest : String} (h : '.' ∉ first.toList) :
      (first ++ "." ++ rest).toList.takeWhile (· != '.') = first.toList := by
    have hfirst : ∀ c ∈ first.toList, (c != '.') = true := fun c hc =>
      bne_iff_ne.mpr fun hdot => h (hdot ▸ hc)
    rw [String.toList_append, String.toList_append, List.append_assoc,
      List.takeWhile_append_of_pos hfirst]
    exact List.append_nil _
  have hfirst : first = first' := by
    rw [← String.toList_inj, ← hcut h, heq, hcut h']
  subst hfirst
  refine ⟨rfl, ?_⟩
  rw [← String.toList_inj] at heq ⊢
  simpa using heq

end Text

namespace Legacy

theorem nodup_sections : ∀ t ∈ ReportType.all, ∀ maps ∈ (sections t).toOption,
    (maps.map (·.1)).Nodup ∧ ∀ section' ∈ maps, '.' ∉ section'.1.toList := by
  decide +kernel

variable {data : Json} {maps : List (String × FieldMap)} {f f' : Field} {text : String}

theorem mem_selectedKeys :
    (text, f) ∈ selectedKeys data maps ↔ ∃ name map key, (name, map) ∈ maps ∧
      key ∈ givenKeys (sectionOf data name) ∧ lookup? key map = some f ∧
      text = name ++ "." ++ key := by
  simp only [selectedKeys, mappedKeys, List.mem_flatMap, List.mem_map, List.mem_filterMap,
    Option.map_eq_some_iff, Prod.exists, Prod.mk.injEq]
  constructor
  · rintro ⟨name, map, hmap, key, f, ⟨given, hgiven, found, hfound, rfl, rfl⟩, rfl, rfl⟩
    exact ⟨name, map, given, hmap, hgiven, hfound, rfl⟩
  · rintro ⟨name, map, key, hmap, hgiven, hfound, rfl⟩
    exact ⟨name, map, hmap, key, f, ⟨key, hgiven, f, hfound, rfl, rfl⟩, rfl, rfl⟩

/-- A section and a key together name one field. -/
theorem eq_of_mem_selectedKeys {t : ReportType} (hmaps : sections t = .ok maps)
    (h : (text, f) ∈ selectedKeys data maps) (h' : (text, f') ∈ selectedKeys data maps) :
    f = f' := by
  obtain ⟨name, map, key, hmap, -, hfound, htext⟩ := mem_selectedKeys.mp h
  obtain ⟨name', map', key', hmap', -, hfound', htext'⟩ := mem_selectedKeys.mp h'
  have hmem : maps ∈ (sections t).toOption := by
    rw [hmaps]
    rfl
  obtain ⟨hnodup, hdots⟩ := nodup_sections t t.mem_all maps hmem
  obtain ⟨rfl, rfl⟩ :=
    Text.append_dot_inj (hdots _ hmap) (hdots _ hmap') (htext.symm.trans htext')
  cases List.inj_on_of_nodup_map hnodup hmap hmap' rfl
  exact Option.some.inj (hfound.symm.trans hfound')

/-- The legacy order names the field: a section and a key that the section selects. -/
def OrdersBy (data : Json) (maps : List (String × FieldMap)) (f : Field) : Prop :=
  ∃ name map key, (name, map) ∈ maps ∧ key ∈ givenKeys (sectionOf data name) ∧
    lookup? key map = some f ∧ orderMember data "orderBy" = .str (name ++ "." ++ key)

theorem ordersBy_iff : OrdersBy data maps f ↔
    ∃ text, orderMember data "orderBy" = .str text ∧ (text, f) ∈ selectedKeys data maps := by
  simp only [mem_selectedKeys]
  constructor
  · rintro ⟨name, map, key, hmap, hgiven, hfound, horder⟩
    exact ⟨_, horder, name, map, key, hmap, hgiven, hfound, rfl⟩
  · rintro ⟨text, horder, name, map, key, hmap, hgiven, hfound, rfl⟩
    exact ⟨name, map, key, hmap, hgiven, hfound, horder⟩

theorem ordersBy_of_sortField?
    (h : sortField? (selectedKeys data maps) (orderMember data "orderBy") = some f) :
    OrdersBy data maps f := by
  obtain ⟨⟨text, found⟩, hfind, rfl⟩ := Option.map_eq_some_iff.mp h
  have hmem : (text, found) ∈ selectedKeys data maps :=
    List.mem_reverse.mp (List.mem_of_find?_eq_some hfind)
  have htext : (orderMember data "orderBy").text? = some text := by
    simpa using List.find?_some hfind
  refine ordersBy_iff.mpr ⟨text, ?_, hmem⟩
  cases horder : orderMember data "orderBy" with
  | str s =>
    rw [horder] at htext
    cases htext
    rfl
  | _ =>
    rw [horder] at htext
    cases htext

theorem sortField?_eq_some_iff {t : ReportType} (hmaps : sections t = .ok maps) :
    sortField? (selectedKeys data maps) (orderMember data "orderBy") = some f ↔
      OrdersBy data maps f := by
  refine ⟨ordersBy_of_sortField?, fun h => ?_⟩
  obtain ⟨text, horder, hmem⟩ := ordersBy_iff.mp h
  cases hsort : sortField? (selectedKeys data maps) (orderMember data "orderBy") with
  | none =>
    have hnone := List.find?_eq_none.mp (Option.map_eq_none_iff.mp hsort) (text, f)
      (List.mem_reverse.mpr hmem)
    rw [horder] at hnone
    exact absurd (beq_self_eq_true _) hnone
  | some f' =>
    obtain ⟨text', horder', hmem'⟩ := ordersBy_iff.mp (ordersBy_of_sortField? hsort)
    cases horder.symm.trans horder'
    rw [eq_of_mem_selectedKeys hmaps hmem hmem']

end Legacy

/-! ## Sorted queries -/

/-- The rows of a report are sorted by the alias under which each of its branches selects the
field. -/
structure SortedBy (ctx : Context) (engine : Sql.Dialect) (o : CompileOptions) (r : Compiled)
    (f : Field) (direction : SortDirection) : Prop where
  sql : r.sql =
    engine.renderDefinitions (Query.definitionsOf ctx)
      ++ " UNION ".intercalate ((Query.branchesOf ctx).map engine.renderBranch)
      ++ (" ORDER BY " ++ Text.quote '"' (ctx.fieldLabel f).asText ++ " " ++ direction.keyword)
      ++ " LIMIT " ++ toString (ctx.session.platform.rowLimit o.limit o.use)
  selected : ∀ b ∈ Query.branchesOf ctx, ∃ side, Query.emits ctx side = true ∧
    b = Layout.branch ctx side ∧
    ((columnOf ctx f.id).on side, Sql.Expr.label (ctx.fieldLabel f).asText) ∈ b.select

section Columns

variable {ctx : Context} {f : Field}

theorem emitted_of_alwaysShows (hf : f.id ∈ ctx.definition.fields)
    (hshown : ctx.type.AlwaysShows f) : f.id ∈ fieldsOf ctx .emitted :=
  mem_fieldsOf.mpr ⟨hf, classOf_of_alwaysShows hshown⟩

theorem sortColumn_of_custom (hf : f.id ∈ fieldsOf ctx .emitted)
    (hselector : ctx.definition.sorting.selector = .custom)
    (hfield : ctx.definition.sorting.field = f.id) : sortColumn ctx = some f.id := by
  rw [sortColumn, hfield]
  exact if_pos ⟨hselector, _, hf, columnKey_eq_id_iff.mpr rfl⟩

theorem sortColumn_of_default (hf : ctx.type.defaultSort.id ∈ fieldsOf ctx .emitted)
    (hselector : ctx.definition.sorting.selector = .default) :
    sortColumn ctx = some ctx.type.defaultSort.id := by
  rw [sortColumn, hselector]
  simp [hf]

end Columns

section Service

variable {m : Type → Type} [Monad m] [MonadExceptOf Failure m] [MonadAttach m] [LawfulService m]

theorem sortedBy_of_sortColumn {dir : Directory m} {w : Warehouse} {d : Definition} {s : Session}
    {checkVisibility : Bool} {ctx : Context} {f : Field}
    (hctx : Gathered dir w d s checkVisibility ctx) (engine : Sql.Dialect) {o : CompileOptions}
    (ho : o.use.isPreview = false) (hsort : sortColumn ctx = some f.id) :
    SortedBy ctx engine o (Report.compiled ctx engine o) f ctx.definition.sorting.direction := by
  have hordered := hsort ▸ orderedBy_sortColumn hctx engine ho
  obtain ⟨text, -, hkey, hlabel, hselected⟩ := hordered.selected f.id rfl
  obtain rfl := columnKey_eq_id_iff.mp hkey
  rw [labelOf_id] at hlabel
  rw [hlabel] at hselected
  constructor
  · rw [hordered.sql, orderText, hlabel, direction_eq, unorderedText, limitText]
    simp only [String.append_assoc]
  · intro b hb
    obtain ⟨side, hemits, rfl⟩ := Query.mem_branchesOf.mp hb
    exact ⟨side, hemits, rfl, hselected side hemits⟩

end Service

namespace Legacy

section

variable {m : Type → Type} [Monad m] [MonadExceptOf Failure m] [MonadAttach m] [LawfulService m]

section Imported

variable {dir : Directory m} {w : Warehouse} {d : Definition} {caller : Session}
  {checkVisibility : Bool} {ctx : Context} {t : ReportType} {data : Json}
  {maps : List (String × FieldMap)} (hmaps : sections t = .ok maps) (htakes : Takes t data maps d)
  (hctx : Gathered dir w d caller checkVisibility ctx) (engine : Sql.Dialect) {o : CompileOptions}
  (ho : o.use.isPreview = false)
include hmaps htakes hctx ho

/-- A report whose legacy order names a field is sorted by the field. -/
theorem sortedBy_of_ordersBy {f : Field} (hf : OrdersBy data maps f) :
    SortedBy ctx engine o (Report.compiled ctx engine o) f
      (directionOf (orderMember data "type").asText) := by
  have hsort := (sortField?_eq_some_iff hmaps).mpr hf
  obtain ⟨text, -, hmem⟩ := ordersBy_iff.mp hf
  have hin : f.id ∈ ctx.definition.fields := by
    rw [hctx.definition, htakes.fields, ReportType.mem_withMandatory]
    exact .inr (List.mem_map_of_mem (f := (·.2.id)) hmem)
  have hshown : ctx.type.AlwaysShows f := by
    rw [Context.type, hctx.definition, htakes.type]
    exact alwaysShows_selectedKeys hmaps hmem
  have hset : ctx.definition.sorting =
      { selector := .custom, field := f.id
        direction := directionOf (orderMember data "type").asText } := by
    rw [hctx.definition, htakes.sorting, sortingOf, hsort]
    rfl
  have hsort := sortColumn_of_custom (emitted_of_alwaysShows hin hshown) (by rw [hset])
    (by rw [hset])
  have hsorted := sortedBy_of_sortColumn hctx engine ho hsort
  rwa [hset] at hsorted

theorem sortedBy_of_not_ordersBy (hnone : ¬∃ f, OrdersBy data maps f) :
    SortedBy ctx engine o (Report.compiled ctx engine o) t.defaultSort .ascending := by
  have hsort : sortField? (selectedKeys data maps) (orderMember data "orderBy") = none :=
    Option.eq_none_iff_forall_ne_some.mpr fun f hf =>
      hnone ⟨f, (sortField?_eq_some_iff hmaps).mp hf⟩
  have hset : ctx.definition.sorting = { field := t.defaultSort.id } := by
    rw [hctx.definition, htakes.sorting, sortingOf, hsort]
    rfl
  have htype : ctx.type = t := by
    rw [Context.type, hctx.definition, htakes.type]
  have hmandatory := t.defaultSort_mem_mandatory
  have hin : t.defaultSort.id ∈ ctx.definition.fields := by
    rw [hctx.definition, htakes.fields, ReportType.mem_withMandatory]
    exact .inl (List.mem_map_of_mem hmandatory)
  have hshown := ReportType.alwaysShows_mandatory t t.mem_all _ hmandatory
  rw [← htype] at hin hshown ⊢
  have hsort := sortColumn_of_default (emitted_of_alwaysShows hin hshown) (by rw [hset])
  have hsorted := sortedBy_of_sortColumn hctx engine ho hsort
  rwa [hset] at hsorted

end Imported

/-- Imported reports are sorted by the field that the legacy order names, or as usual. -/
theorem parse_keeps_order {s : Session} {stamp : Stamp} {t : ReportType} {r : Report}
    {platform : String} {rules : List VisibilityRule} {room : Room} {d : Definition}
    (h : parse s stamp t r platform rules room = .ok d)
    {dir : Directory m} {w : Warehouse} {caller : Session} {engine : Sql.Dialect}
    {o : CompileOptions} {compiled : Compiled} (ho : o.use.isPreview = false)
    (hreturn : CanReturn (Report.compile dir w d caller engine o) compiled) :
    ∃ data maps ctx, payload r.data room.reading = .ok data ∧ sections t = .ok maps ∧
      Gathered dir w d caller o.checkVisibility ctx ∧
      (∀ f, OrdersBy data maps f → SortedBy ctx engine o compiled f
        (if Text.lower (orderMember data "type").asText = "desc" then .descending
          else .ascending)) ∧
      ((¬∃ f, OrdersBy data maps f) →
        SortedBy ctx engine o compiled t.defaultSort .ascending) := by
  obtain ⟨data, maps, hdata, hmaps, htakes⟩ := takes_of_parse h
  obtain ⟨-, ctx, -, hctx, rfl⟩ := gathered_of_compile hreturn
  exact ⟨data, maps, ctx, hdata, hmaps, hctx,
    fun f hf => sortedBy_of_ordersBy hmaps htakes hctx engine ho hf,
    fun hnone => sortedBy_of_not_ordersBy hmaps htakes hctx engine ho hnone⟩

end

theorem parse_keeps_order_bothShapes :
    ∃ d compiled, parse plainUser ⟨"", ""⟩ .classroomSessions onBothShapes "" [] = .ok d ∧
      Report.compile knowing .complete d plainUser .athena {} = .ok compiled ∧
      ∃ data maps ctx, payload onBothShapes.data = .ok data ∧
        sections .classroomSessions = .ok maps ∧
        Gathered knowing .complete d plainUser true ctx ∧
        OrdersBy data maps .enrollmentLearnerEvaluation ∧
        SortedBy ctx .athena {} compiled .enrollmentLearnerEvaluation .descending := by
  obtain ⟨d, compiled, hd, hcompiled⟩ : ∃ d compiled,
      parse plainUser ⟨"", ""⟩ .classroomSessions onBothShapes "" [] = .ok d ∧
        Report.compile knowing .complete d plainUser .athena {} = .ok compiled :=
    ⟨_, _, rfl, rfl⟩
  have hreturn : CanReturn (Report.compile knowing .complete d plainUser .athena {}) compiled :=
    hcompiled
  obtain ⟨data, maps, ctx, hdata, hmaps, hctx, hnamed, -⟩ := parse_keeps_order hd rfl hreturn
  refine ⟨d, compiled, hd, hcompiled, data, maps, ctx, hdata, hmaps, hctx, ?_⟩
  cases hdata
  cases hmaps
  refine (fun horders => ⟨horders, hnamed _ horders⟩) ?_
  exact ⟨"enrollment", .sessionEnrollment, "learningCourseuserSessions.evaluation_score",
    by decide, by decide, rfl, rfl⟩

end Legacy

end LearningReports
