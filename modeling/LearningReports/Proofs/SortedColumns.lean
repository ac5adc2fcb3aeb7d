import LearningReports.Proofs.UnitedBranches
import LearningReports.Proofs.Accounting

/-! # Sorted columns

The rows of a report are sorted by the column of the field that the definition chooses, by the usual
column of the type or by the first one. A column stands under the own key of its field. So the
chosen column is found exactly when the choice is written as a key: a custom field can be selected
under other spellings of its number, and these are the key of no column. -/
namespace LearningReports

open MonadAttach (CanReturn)
open Sql (Expr)

/-! ## Columns by their keys -/

section Keys

variable {ctx : Context} {text : String}

theorem hasColumn_iff {key : String} :
    Query.hasColumn ctx key = true ↔ ∃ text ∈ fieldsOf ctx .emitted, columnKey text = key := by
  rw [Query.hasColumn, columns_eq, List.any_map, List.any_eq_true]
  simp

theorem exists_keyOf_of_columnKey_ne (h : columnKey text ≠ text) :
    ∃ e n, columnKey text = CustomField.keyOf e n := by
  unfold columnKey at h ⊢
  split at h
  · next c _ => exact ⟨c.entity, c.number, rfl⟩
  · exact absurd rfl h

/-- The id of a standard field is the key of its own column only. -/
theorem columnKey_eq_id_iff {f : Field} : columnKey text = f.id ↔ text = f.id := by
  constructor
  · intro h
    by_cases hself : columnKey text = text
    · exact hself.symm.trans h
    · obtain ⟨e, n, hkey⟩ := exists_keyOf_of_columnKey_ne hself
      exact absurd (hkey.symm.trans h) (CustomField.keyOf_ne_id e n f)
  · rintro rfl
    rw [columnKey, CustomField.parse_id]

theorem hasColumn_id_iff {f : Field} :
    Query.hasColumn ctx f.id = true ↔ f.id ∈ fieldsOf ctx .emitted := by
  simp [hasColumn_iff, columnKey_eq_id_iff]

end Keys

/-! ## The column that the rows are sorted by -/

/-- The key of the column that a definition asks to be sorted by; none stands for the first column.
The choice counts when it is one of the selected fields and has a column. -/
def askedColumn (ctx : Context) : Option String :=
  let sorting := ctx.definition.sorting
  if sorting.selector = .custom ∧ sorting.field ∈ fieldsOf ctx .emitted then
    some (columnKey sorting.field)
  else if ctx.type.defaultSort.id ∈ fieldsOf ctx .emitted then some ctx.type.defaultSort.id
  else none

/-- The key of the column that the rows are sorted by. The choice counts when it is the key of a
column. -/
def sortColumn (ctx : Context) : Option String :=
  let sorting := ctx.definition.sorting
  if sorting.selector = .custom ∧ ∃ text ∈ fieldsOf ctx .emitted, columnKey text = sorting.field then
    some sorting.field
  else if ctx.type.defaultSort.id ∈ fieldsOf ctx .emitted then some ctx.type.defaultSort.id
  else none

/-- A chosen field that has a column is written as its key, and a choice that is not among the
fields with a column is the key of no column. -/
def ChoosesByKey (ctx : Context) : Prop :=
  let sorting := ctx.definition.sorting
  sorting.selector = .custom →
    if sorting.field ∈ fieldsOf ctx .emitted then columnKey sorting.field = sorting.field
    else ∀ text ∈ fieldsOf ctx .emitted, columnKey text ≠ sorting.field

theorem sortKey_eq (ctx : Context) :
    Query.sortKey ctx = (sortColumn ctx).elim (.int 1) (Layout.aliasOf ctx) := by
  have hchosen : Query.hasColumn ctx ctx.definition.sorting.field = true ↔ _ := hasColumn_iff
  have husual : Query.hasColumn ctx ctx.type.defaultSort.id = true ↔ _ := hasColumn_id_iff
  simp only [Query.sortKey, sortColumn, Bool.and_eq_true, decide_eq_true_eq, hchosen, husual]
  split
  · rfl
  · split <;> rfl

theorem usual_ne_keyOf (t : ReportType) (e : Entity) (n : Int) {condition : Prop}
    [Decidable condition] :
    (if condition then some t.defaultSort.id else none) ≠ some (CustomField.keyOf e n) := by
  split
  · exact fun h => CustomField.keyOf_ne_id e n _ (Option.some.inj h).symm
  · exact Option.some_ne_none _ |>.symm

theorem sortColumn_eq_askedColumn_iff (ctx : Context) :
    sortColumn ctx = askedColumn ctx ↔ ChoosesByKey ctx := by
  unfold sortColumn askedColumn ChoosesByKey
  by_cases hcustom : ctx.definition.sorting.selector = .custom
  · by_cases hchosen : ctx.definition.sorting.field ∈ fieldsOf ctx .emitted
    · simp only [hcustom, hchosen, true_and, and_self, if_true, forall_const]
      by_cases hkey : columnKey ctx.definition.sorting.field = ctx.definition.sorting.field
      · rw [if_pos ⟨_, hchosen, hkey⟩, hkey]
        exact iff_of_true rfl rfl
      · obtain ⟨e, n, hcustomKey⟩ := exists_keyOf_of_columnKey_ne hkey
        refine ⟨fun h => ?_, fun h => absurd h hkey⟩
        split at h
        · exact (Option.some.inj h).symm
        · rw [hcustomKey] at h
          exact absurd h (usual_ne_keyOf _ e n)
    · simp only [hcustom, hchosen, true_and, and_false, if_false, forall_const]
      constructor
      · intro h text htext hkey
        rw [if_pos ⟨text, htext, hkey⟩] at h
        have hne : columnKey text ≠ text := by
          intro hself
          rw [← hkey, hself] at hchosen
          exact hchosen htext
        obtain ⟨e, n, hcustomKey⟩ := exists_keyOf_of_columnKey_ne hne
        rw [← hkey, hcustomKey] at h
        exact usual_ne_keyOf _ e n h.symm
      · intro h
        rw [if_neg]
        rintro ⟨text, htext, hkey⟩
        exact h text htext hkey
  · simp [hcustom]

/-! ## Sorted queries -/

def orderText (ctx : Context) : Option String → String
  | some key => Text.quote '"' (ctx.label key).asText
  | none => "1"

def unorderedText (ctx : Context) (engine : Sql.Dialect) : String :=
  engine.renderDefinitions (Query.definitionsOf ctx)
    ++ " UNION ".intercalate ((Query.branchesOf ctx).map engine.renderBranch)

def limitText (ctx : Context) (o : CompileOptions) : String :=
  " LIMIT " ++ toString (ctx.session.platform.rowLimit o.limit o.use)

/-- The rows of a report are sorted by a column, which each of its branches has: the column of an
emitted field under the label of the field, or the first column. -/
structure OrderedBy (ctx : Context) (engine : Sql.Dialect) (o : CompileOptions) (r : Compiled)
    (column : Option String) : Prop where
  sql : r.sql = unorderedText ctx engine ++ (" ORDER BY " ++ orderText ctx column ++
    if ctx.definition.sorting.direction = .descending then " DESC" else " ASC") ++ limitText ctx o
  nonempty : ∀ b ∈ Query.branchesOf ctx, b.select ≠ []
  selected : ∀ key, column = some key → ∃ text ∈ fieldsOf ctx .emitted, columnKey text = key ∧
    ctx.label key = labelOf ctx text ∧
    ∀ side, Query.emits ctx side = true →
      ((columnOf ctx text).on side, .label (ctx.label key).asText) ∈ (Layout.branch ctx side).select

theorem exists_of_sortColumn {ctx : Context} {key : String} (h : sortColumn ctx = some key) :
    ∃ text ∈ fieldsOf ctx .emitted, columnKey text = key := by
  unfold sortColumn at h
  dsimp only at h
  split at h
  · next hchosen =>
    cases h
    exact hchosen.2
  · split at h
    · next husual =>
      cases h
      exact ⟨_, husual, columnKey_eq_id_iff.mpr rfl⟩
    · cases h

theorem direction_eq (direction : SortDirection) :
    (if direction = .descending then " DESC" else " ASC") = " " ++ direction.keyword := by
  cases direction <;> rfl

theorem render_sortKey (ctx : Context) (engine : Sql.Dialect) :
    engine.render (Query.sortKey ctx) = orderText ctx (sortColumn ctx) := by
  rw [sortKey_eq]
  cases sortColumn ctx with
  | none => rfl
  | some key => rfl

/-- A query ends with its order and its limit; that of a preview has no order. -/
theorem sql_compiled (ctx : Context) (engine : Sql.Dialect) (o : CompileOptions) :
    (Report.compiled ctx engine o).sql = unorderedText ctx engine ++
      engine.renderOrder (if o.use.isPreview then none
        else some (Query.sortKey ctx, ctx.definition.sorting.direction)) ++ limitText ctx o := by
  change engine.renderQuery (Query.ofContext ctx o.limit o.use) = _
  rw [Sql.Dialect.renderQuery, unorderedText, limitText]
  simp only [String.append_assoc]
  rfl

section Service

variable {m : Type → Type} [Monad m] [MonadExceptOf Failure m] [MonadAttach m] [LawfulService m]
variable {dir : Directory m} {w : Warehouse} {d : Definition} {s : Session}
  {checkVisibility : Bool} {ctx : Context}

theorem orderedBy_sortColumn (hctx : Gathered dir w d s checkVisibility ctx)
    (engine : Sql.Dialect) {o : CompileOptions} (ho : o.use.isPreview = false) :
    OrderedBy ctx engine o (Report.compiled ctx engine o) (sortColumn ctx) where
  sql := by
    rw [sql_compiled, ho, direction_eq, ← render_sortKey ctx engine]
    simp only [Bool.false_eq_true, if_false, Sql.Dialect.renderOrder, String.append_assoc]
  nonempty := (linedUp_ofContext ctx engine o.limit o.use).selects
  selected key hkey := by
    obtain ⟨text, htext, rfl⟩ := exists_of_sortColumn hkey
    refine ⟨text, htext, rfl, label_columnKey hctx htext, fun side _ => ?_⟩
    have hcolumn : (columnKey text, columnOf ctx text) ∈ Layout.columns ctx := by
      rw [columns_eq]
      exact List.mem_map_of_mem htext
    rw [select_branch, if_neg (List.ne_nil_of_mem hcolumn)]
    exact List.mem_map_of_mem hcolumn

/-- The rows of every compiled report are sorted by a column that each branch has. It is the column
that the definition asks for exactly when the definition chooses by a key. A preview is not
sorted. -/
theorem compile_sorts_iff {engine : Sql.Dialect} {o : CompileOptions} {r : Compiled}
    (h : CanReturn (Report.compile dir w d s engine o) r) :
    ∃ ctx, Gathered dir w d s o.checkVisibility ctx ∧
      (o.use.isPreview = false → OrderedBy ctx engine o r (sortColumn ctx)) ∧
      (o.use.isPreview = true → r.sql = unorderedText ctx engine ++ limitText ctx o) ∧
      (sortColumn ctx = askedColumn ctx ↔ ChoosesByKey ctx) := by
  obtain ⟨-, ctx, -, hctx, rfl⟩ := gathered_of_compile h
  refine ⟨ctx, hctx, orderedBy_sortColumn hctx engine, fun ho => ?_,
    sortColumn_eq_askedColumn_iff ctx⟩
  rw [sql_compiled, ho]
  exact congrArg (· ++ limitText ctx o) (String.append_empty)

end Service

def byOffice (field : String) : Definition :=
  { idReport := "", type := .usersCourses, fields := ["user_userid", field]
    sorting := { selector := .custom, field := field, direction := .descending } }

theorem emitted_byOffice {field : String} {checkVisibility : Bool} {ctx : Context}
    (hctx : Gathered knowing .complete (byOffice field) plainUser checkVisibility ctx)
    (hparse : CustomField.parse field = .ok (some ⟨.user, 3⟩)) :
    field ∈ fieldsOf ctx .emitted := by
  have hdefinition : ctx.definition = byOffice field := hctx.definition
  have htext : field ∈ ctx.definition.fields := hdefinition ▸ .tail _ (.head _)
  obtain ⟨known, hknown⟩ := resolvesKnown_of_gathered hctx
  obtain ⟨hanswer, hresolved⟩ := hknown _ htext _ hparse
  have htype : ctx.type = .usersCourses := congrArg Definition.type hdefinition
  rw [htype] at hanswer hresolved
  have hoffice : knownOffice .user = known .user := Except.ok.inj (hanswer (by decide))
  have hknows : CustomFields.Knows (known .user) ⟨.user, 3⟩ :=
    hoffice ▸ ⟨_, List.mem_singleton_self _, rfl⟩
  exact mem_fieldsOf.mpr ⟨htext, classOf_of_resolved (hresolved.mpr ⟨by decide, hknows⟩)⟩

theorem compile_sorts_iff_office :
    ∃ r ctx, Report.compile knowing .complete (byOffice "user_extrafield_3") plainUser .athena {} =
        .ok r ∧
      Gathered knowing .complete (byOffice "user_extrafield_3") plainUser true ctx ∧
      ChoosesByKey ctx ∧ OrderedBy ctx .athena {} r (some "user_extrafield_3") := by
  obtain ⟨r, hr⟩ : ∃ r, Report.compile knowing .complete (byOffice "user_extrafield_3") plainUser
      .athena {} = .ok r := ⟨_, rfl⟩
  have hreturn : CanReturn (Report.compile knowing .complete (byOffice "user_extrafield_3")
      plainUser .athena {}) r := hr
  obtain ⟨ctx, hctx, hordered, -, hiff⟩ := compile_sorts_iff hreturn
  have hemitted : "user_extrafield_3" ∈ fieldsOf ctx .emitted :=
    emitted_byOffice hctx (CustomFields.parsed?_eq_some_iff.mp (by decide +kernel))
  have hkey : columnKey "user_extrafield_3" = "user_extrafield_3" := by decide +kernel
  have hsorting : ctx.definition.sorting = (byOffice "user_extrafield_3").sorting :=
    congrArg Definition.sorting hctx.definition
  have hsort : sortColumn ctx = some "user_extrafield_3" := by
    rw [sortColumn, hsorting]
    exact if_pos ⟨rfl, _, hemitted, hkey⟩
  have hasked : askedColumn ctx = some "user_extrafield_3" := by
    rw [askedColumn, hsorting]
    exact (if_pos ⟨rfl, hemitted⟩).trans (congrArg some hkey)
  exact ⟨r, ctx, hr, hctx, hiff.mp (hsort.trans hasked.symm), hsort ▸ hordered rfl⟩

/-- A field that is selected and chosen with a zero in front of its number has a column, and the
rows are sorted by another one. -/
theorem compile_sorts_respelled :
    ∃ r ctx, Report.compile knowing .complete (byOffice "user_extrafield_03") plainUser .athena {} =
        .ok r ∧
      Gathered knowing .complete (byOffice "user_extrafield_03") plainUser true ctx ∧
      askedColumn ctx = some "user_extrafield_3" ∧
      orderText ctx (askedColumn ctx) = "\"Office\"" ∧
      OrderedBy ctx .athena {} r (some "user_userid") ∧
      orderText ctx (some "user_userid") = "\"Username\"" := by
  have hseen : ((fun ctx => (askedColumn ctx, sortColumn ctx, orderText ctx (askedColumn ctx),
      orderText ctx (some "user_userid"))) <$> Gather.context knowing .complete
        (byOffice "user_extrafield_03") plainUser true).toOption =
      some (some "user_extrafield_3", some "user_userid", "\"Office\"", "\"Username\"") := by
    decide +kernel
  cases hctx : Gather.context knowing .complete (byOffice "user_extrafield_03") plainUser true with
  | error f =>
    rw [hctx] at hseen
    cases hseen
  | ok ctx =>
    have hgathered : Gathered knowing .complete (byOffice "user_extrafield_03") plainUser true
        ctx := gathered_of_context hctx
    have hcompiled : Report.compile knowing .complete (byOffice "user_extrafield_03") plainUser
        .athena {} = .ok (Report.compiled ctx .athena {}) := by
      rw [Report.compile, hctx]
      rfl
    rw [hctx] at hseen
    obtain ⟨hasked, hseen⟩ := Prod.mk.inj (Option.some.inj hseen)
    obtain ⟨hsort, hseen⟩ := Prod.mk.inj hseen
    obtain ⟨hoffice, husual⟩ := Prod.mk.inj hseen
    exact ⟨_, ctx, hcompiled, hgathered, hasked, hoffice,
      hsort ▸ orderedBy_sortColumn hgathered .athena rfl, husual⟩

end LearningReports
