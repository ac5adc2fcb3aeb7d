import LearningReports.CustomFields.Inspector
import LearningReports.Proofs.SkippedTexts

/-! # Missing tables

An inspector answers at each step as its warehouse does, whatever it was asked before. Listed
columns and a running engine with the same tables tell the same of every custom field whose value
table is there; of the others the list says that they are not stored, while the engine refuses, and
the report with it. -/
namespace LearningReports

variable {w : Warehouse} {i : Inspector} {tables : List (String × List String)}

/-! ## Inspectors -/

namespace Inspector

/-- The inspector asks the warehouse, and what it remembers of a table is what the warehouse would
say. Of a list it remembers everything. -/
structure Reflects (i : Inspector) (w : Warehouse) : Prop where
  asks : i.warehouse = w
  told : ∀ table columns, lookup? table i.remembered = some columns →
    ∀ column, w.hasColumn table column = .ok (columns.contains (Text.lower column))
  whole : ∀ tables, w = .listed tables → ∀ table, lookup? table i.remembered = none →
    lookup? table tables = none

theorem lookup?_fresh_listed (tables : List (String × List String)) (table : String) :
    lookup? table (fresh (.listed tables)).remembered =
      (lookup? table tables).map (·.map Text.lower) :=
  Sql.lookup?_map (List.map Text.lower) table tables

theorem reflects_fresh (w : Warehouse) : (fresh w).Reflects w where
  asks := rfl
  told table columns h column := by
    cases w with
    | complete => cases h
    | engine tables => cases h
    | listed tables =>
      rw [lookup?_fresh_listed] at h
      obtain ⟨listed, hlisted, rfl⟩ := Option.map_eq_some_iff.mp h
      rw [Warehouse.hasColumn, hlisted]
      rfl
  whole tables hw table h := by
    subst hw
    rw [lookup?_fresh_listed] at h
    exact Option.map_eq_none_iff.mp h

/-- The answer of an inspector is that of the warehouse, and what it remembers stays right. -/
theorem Reflects.hasColumn (h : i.Reflects w) (table column : String) :
    (i.hasColumn table column).1 = w.hasColumn table column ∧
      (i.hasColumn table column).2.Reflects w := by
  unfold Inspector.hasColumn Inspector.columns
  cases hremembered : lookup? table i.remembered with
  | some columns => exact ⟨(h.told table columns hremembered column).symm, h⟩
  | none =>
    rw [h.asks]
    cases w with
    | complete => exact ⟨rfl, h⟩
    | listed tables =>
      have hnone := h.whole tables rfl table hremembered
      exact ⟨by rw [Warehouse.hasColumn, hnone]; rfl, h⟩
    | engine tables =>
      dsimp only
      cases htable : lookup? table tables with
      | none => exact ⟨by rw [Warehouse.hasColumn, htable]; rfl, h⟩
      | some columns =>
        refine ⟨by rw [Warehouse.hasColumn, htable]; rfl, rfl, ?_, ?_⟩
        · intro other known hother column
          by_cases hsame : other = table
          · subst hsame
            dsimp only at hother
            rw [lookup?_bindKey_self] at hother
            cases hother
            rw [Warehouse.hasColumn, htable]
            rfl
          · exact h.told other known ((lookup?_bindKey_ne hsame ..).symm.trans hother) column
        · intro listed heq
          cases heq

theorem Reflects.answers (h : i.Reflects w) (fields : List CustomField) :
    i.answers fields = fields.map (·.isMaterialized w) := by
  induction fields generalizing i with
  | nil => rfl
  | cons f fs ih =>
    obtain ⟨hanswer, hnext⟩ := h.hasColumn f.entity.valueTable.name f.column
    exact congrArg₂ List.cons hanswer (ih hnext)

end Inspector

/-! ## Tables with values -/

theorem Warehouse.holds_iff {columns : List String} {column : String} :
    holds columns column = true ↔ ∃ other ∈ columns, Text.lower other = Text.lower column := by
  simp [holds]

namespace CustomField

variable {c : CustomField}

/-- The table that would hold the values of the field is there. -/
def HasTable (tables : List (String × List String)) (c : CustomField) : Prop :=
  (lookup? c.entity.valueTable.name tables).isSome = true

instance (tables : List (String × List String)) (c : CustomField) : Decidable (c.HasTable tables) :=
  inferInstanceAs (Decidable (_ = true))

/-- The table is there and has the column for the values, letter case aside. -/
def IsStoredIn (tables : List (String × List String)) (c : CustomField) : Prop :=
  ∃ columns ∈ lookup? c.entity.valueTable.name tables,
    ∃ column ∈ columns, Text.lower column = Text.lower c.column

instance (tables : List (String × List String)) (c : CustomField) :
    Decidable (c.IsStoredIn tables) :=
  inferInstanceAs (Decidable (∃ columns ∈ lookup? c.entity.valueTable.name tables,
    ∃ column ∈ columns, Text.lower column = Text.lower c.column))

theorem isMaterialized_listed (tables : List (String × List String)) (c : CustomField) :
    c.isMaterialized (.listed tables) = .ok (decide (c.IsStoredIn tables)) := by
  rw [isMaterialized, Warehouse.hasColumn]
  congr 1
  rw [Bool.eq_iff_iff, Warehouse.holds_iff, decide_eq_true_eq, IsStoredIn]
  cases lookup? c.entity.valueTable.name tables <;> simp

theorem isMaterialized_engine (tables : List (String × List String)) (c : CustomField) :
    c.isMaterialized (.engine tables) =
      if c.HasTable tables then c.isMaterialized (.listed tables) else .error .noSuchTable := by
  cases h : lookup? c.entity.valueTable.name tables <;>
    simp [isMaterialized, Warehouse.hasColumn, HasTable, h]

end CustomField

/-! ## Refusals -/

/-- The first outcome is the second, or a table is refused. -/
def OrRefused {α : Type} (x y : Outcome α) : Prop := x = y ∨ x = .error .noSuchTable

namespace OrRefused

variable {α β : Type} {x y : Outcome α}

theorem refl (x : Outcome α) : OrRefused x x := .inl rfl

theorem bind {f g : α → Outcome β} (h : OrRefused x y) (hf : ∀ a, OrRefused (f a) (g a)) :
    OrRefused (x >>= f) (y >>= g) := by
  cases h with
  | inl h =>
    subst h
    cases x with
    | ok a => exact hf a
    | error e => exact .refl _
  | inr h =>
    subst h
    exact .inr rfl

theorem foldlM {f g : β → α → Outcome β} (h : ∀ b a, OrRefused (f b a) (g b a)) (as : List α)
    (b : β) : OrRefused (as.foldlM f b) (as.foldlM g b) := by
  induction as generalizing b with
  | nil => exact .refl _
  | cons a as ih => exact (h b a).bind ih

theorem eq_ok {a : α} (h : OrRefused x y) (hx : x = .ok a) : y = .ok a := by
  cases h with
  | inl h => rw [← h, hx]
  | inr h => cases hx.symm.trans h

end OrRefused

namespace CustomFields

theorem orRefused_isMaterialized (tables : List (String × List String)) (c : CustomField) :
    OrRefused (c.isMaterialized (.engine tables)) (c.isMaterialized (.listed tables)) := by
  rw [CustomField.isMaterialized_engine]
  split
  · exact .refl _
  · exact .inr rfl

theorem orRefused_resolveEntity (e : Entity) (wanted : List CustomField)
    (known : List FieldMetadata) (r : Resolution) :
    OrRefused (resolveEntity (.engine tables) e wanted known r)
      (resolveEntity (.listed tables) e wanted known r) := by
  refine (OrRefused.refl _).bind fun labels => OrRefused.bind ?_ fun _ => .refl _
  refine OrRefused.foldlM (fun done f => ?_) known r.fields
  unfold resolveOne
  split
  · exact .refl _
  · next c _ => exact (orRefused_isMaterialized tables c).bind fun _ => .refl _

variable (dir : Directory Outcome)

theorem orRefused_resolveEntities (fields : List CustomField) (entities : List Entity)
    (r : Resolution) :
    OrRefused (resolveEntities dir (.engine tables) fields entities r)
      (resolveEntities dir (.listed tables) fields entities r) := by
  induction entities generalizing r with
  | nil => exact .refl _
  | cons e es ih =>
    unfold resolveEntities
    dsimp only
    split
    · exact ih r
    · refine (OrRefused.refl _).bind fun known => OrRefused.bind ?_ ih
      rw [Outcome.lift_self, Outcome.lift_self]
      exact orRefused_resolveEntity e _ known r

theorem orRefused_resolve (texts : List String) (entities : List Entity) (labels : Labels) :
    OrRefused (resolve dir (.engine tables) texts entities labels)
      (resolve dir (.listed tables) texts entities labels) :=
  (OrRefused.refl _).bind fun fields => orRefused_resolveEntities dir fields entities _

end CustomFields

theorem orRefused_context (dir : Directory Outcome) (d : Definition) (s : Session)
    (checkVisibility : Bool) :
    OrRefused (Gather.context dir (.engine tables) d s checkVisibility)
      (Gather.context dir (.listed tables) d s checkVisibility) :=
  (OrRefused.refl _).bind fun _ => (CustomFields.orRefused_resolve ..).bind fun _ => .refl _

theorem orRefused_compile (dir : Directory Outcome) (d : Definition) (s : Session)
    (engine : Sql.Dialect) (o : CompileOptions) :
    OrRefused (Report.compile dir (.engine tables) d s engine o)
      (Report.compile dir (.listed tables) d s engine o) :=
  (OrRefused.refl _).bind fun _ => (orRefused_context ..).bind fun _ => .refl _

/-! ## Reports -/

/-- The value table of every selected custom field that the directory knows is there. -/
def HasValueTables (dir : Directory Outcome) (tables : List (String × List String))
    (d : Definition) : Prop :=
  ∀ text ∈ d.fields, ∀ c, customField? d.type text = some c →
    ∀ known, dir.customFields c.entity = .ok known → CustomFields.Knows known c → c.HasTable tables

/-- A custom field of the report whose values are not stored has an empty column. -/
def LeavesEmpty (tables : List (String × List String)) (ctx : Context) : Prop :=
  ∀ text ∈ ctx.definition.fields, ∀ c f, CustomField.parse text = .ok (some c) →
    lookup? c.key ctx.customFields = some f → ¬c.IsStoredIn tables →
    Layout.fate ctx text = .column c.key CustomColumns.emptyColumn

variable {dir : Directory Outcome} {d : Definition} {s : Session} {engine : Sql.Dialect}
  {o : CompileOptions} {checkVisibility : Bool} {ctx : Context}

theorem checked_engine_iff {c : CustomField} :
    CustomFields.Checked (.engine tables) c ↔ c.HasTable tables := by
  rw [CustomFields.Checked, CustomField.isMaterialized_engine, CustomField.isMaterialized_listed]
  split
  · next h => exact iff_of_true ⟨_, rfl⟩ h
  · next h =>
    refine iff_of_false ?_ h
    rintro ⟨stored, hstored⟩
    cases hstored

theorem resolve_engine_returns_iff {labels : CustomFields.Labels} {r : CustomFields.Resolution}
    (h : CustomFields.resolve dir (.listed tables) d.fields d.type.entities labels = .ok r) :
    (∃ r, CustomFields.resolve dir (.engine tables) d.fields d.type.entities labels = .ok r) ↔
      HasValueTables dir tables d := by
  obtain ⟨hparse, hanswer⟩ := CustomFields.resolve_returns_iff.mp ⟨r, h⟩
  rw [CustomFields.resolve_returns_iff, and_iff_right hparse]
  constructor
  · intro hengine text htext c hc known hknown hknows
    obtain ⟨hread, hentity⟩ := customField?_eq_some_iff.mp hc
    obtain ⟨known', hknown', hchecked⟩ := (hengine text htext c hread hentity).known
    cases Except.ok.inj (hknown.symm.trans hknown')
    exact checked_engine_iff.mp (hchecked hknows)
  · intro htables text htext c hread hentity
    obtain ⟨hcomparable, known, hknown, -⟩ := hanswer text htext c hread hentity
    have hc : customField? d.type text = some c := customField?_eq_some_iff.mpr ⟨hread, hentity⟩
    exact ⟨hcomparable, known, hknown,
      fun hknows => checked_engine_iff.mpr (htables text htext c hc known hknown hknows)⟩

theorem compile_engine_returns_iff {r : Compiled}
    (h : Report.compile dir (.listed tables) d s engine o = .ok r) :
    (∃ r, Report.compile dir (.engine tables) d s engine o = .ok r) ↔
      HasValueTables dir tables d := by
  obtain ⟨hengine, ctx, hctx, -⟩ := compile_eq_ok_iff.mp h
  have hlisted := Gather.context_eq_ok_iff.mp hctx
  rw [← resolve_engine_returns_iff hlisted.custom]
  constructor
  · rintro ⟨r', hr'⟩
    obtain ⟨-, ctx', hctx', -⟩ := compile_eq_ok_iff.mp hr'
    have hother := Gather.context_eq_ok_iff.mp hctx'
    rw [Except.ok.inj (hlisted.wordings.symm.trans hother.wordings)]
    exact ⟨_, hother.custom⟩
  · rintro ⟨custom, hcustom⟩
    exact ⟨_, compile_eq_ok_iff.mpr ⟨hengine,
      { ctx with labels := custom.labels, customFields := custom.fields },
      Gather.context_eq_ok_iff.mpr ⟨hlisted.wordings, hcustom, hlisted.filters, hlisted.conditions,
        hlisted.definition, hlisted.session⟩, rfl⟩⟩

/-- An engine makes the report that a list makes, if the value tables are there, and refuses it
otherwise. -/
theorem compile_engine_of_listed {r : Compiled}
    (h : Report.compile dir (.listed tables) d s engine o = .ok r) :
    (HasValueTables dir tables d → Report.compile dir (.engine tables) d s engine o = .ok r) ∧
      (¬HasValueTables dir tables d →
        Report.compile dir (.engine tables) d s engine o = .error .noSuchTable) := by
  have hrefused : OrRefused (Report.compile dir (.engine tables) d s engine o)
      (Report.compile dir (.listed tables) d s engine o) := orRefused_compile dir d s engine o
  constructor
  · intro htables
    obtain ⟨r', hr'⟩ := (compile_engine_returns_iff h).mpr htables
    rw [hr', ← hrefused.eq_ok hr', h]
  · intro htables
    refine hrefused.resolve_left fun heq => htables ?_
    exact (compile_engine_returns_iff h).mp ⟨r, heq.trans h⟩

theorem fate_of_resolved {text : String} {c : CustomField} {f : ResolvedField}
    (hparse : CustomField.parse text = .ok (some c))
    (hf : lookup? c.key ctx.customFields = some f) :
    Layout.fate ctx text = .column c.key (Layout.customColumn ctx f) := by
  have hresolved : resolved? ctx text = some f := by
    simp only [resolved?, hparse, hf]
  have hemitted : classOf ctx text = .emitted := classOf_of_resolved (by rw [hresolved]; rfl)
  rw [classOf_eq] at hemitted
  have hfated := Layout.fated ctx text
  cases hfate : Layout.fate ctx text with
  | dropped => rw [hfate] at hemitted; cases hemitted
  | unmapped => rw [hfate] at hemitted; cases hemitted
  | column key column =>
    rw [hfate] at hfated
    obtain ⟨rfl, rfl⟩ := eq_of_fated hfated
    rw [columnKey, hparse, columnOf, hresolved]

/-- A warehouse that tells which fields are stored, if it answers. -/
def Warehouse.TellsOf (w : Warehouse) (tables : List (String × List String)) : Prop :=
  ∀ (c : CustomField) (stored : Bool), c.isMaterialized w = .ok stored →
    stored = decide (c.IsStoredIn tables)

theorem Warehouse.tellsOf_listed (tables : List (String × List String)) :
    TellsOf (.listed tables) tables := by
  intro c stored h
  rw [CustomField.isMaterialized_listed] at h
  exact (Except.ok.inj h).symm

theorem Warehouse.tellsOf_engine (tables : List (String × List String)) :
    TellsOf (.engine tables) tables := fun c stored h =>
  tellsOf_listed tables c stored ((CustomFields.orRefused_isMaterialized tables c).eq_ok h)

theorem leavesEmpty_of_context (hw : w.TellsOf tables)
    (h : Gather.context dir w d s checkVisibility = .ok ctx) : LeavesEmpty tables ctx := by
  intro text htext c f hparse hf hstored
  have hcustom : MonadAttach.CanReturn (m := Outcome)
      (CustomFields.resolve dir w d.fields d.type.entities _) _ :=
    (Gather.context_eq_ok_iff.mp h).custom
  obtain ⟨fields, known, -, -, hexact⟩ :=
    CustomFields.exact_of_resolve hcustom d.type.nodup_entities
  obtain ⟨c', -, -, hkey, entry, -, has⟩ := hexact.lookup?_eq_some_iff.mp hf
  cases CustomField.key_injective hkey
  have hempty : f.isMaterialized = false :=
    (hw c _ has.isMaterialized).trans (decide_eq_false hstored)
  rw [fate_of_resolved hparse hf, Layout.customColumn, hempty]
  rfl

/-! ## The theorem -/

/-- Listed columns tell of every custom field whether its column is there, letter case aside. An
engine with the same tables tells the same, question by question, of every field whose value table
is there, and makes the same reports as long as the value tables of their custom fields are. It
refuses all other fields, and the reports with them. In the reports that are made, fields that are
not stored are empty texts. -/
theorem inspectors_agree_iff (tables : List (String × List String)) :
    (∀ fields, (Inspector.fresh (.listed tables)).answers fields =
      fields.map fun c => .ok (decide (c.IsStoredIn tables))) ∧
    (∀ fields, (Inspector.fresh (.engine tables)).answers fields =
      fields.map fun c =>
        if c.HasTable tables then .ok (decide (c.IsStoredIn tables)) else .error .noSuchTable) ∧
    (∀ fields, (Inspector.fresh (.engine tables)).answers fields =
      (Inspector.fresh (.listed tables)).answers fields ↔ ∀ c ∈ fields, c.HasTable tables) ∧
    ∀ (dir : Directory Outcome) (d : Definition) (s : Session) (engine : Sql.Dialect)
      (o : CompileOptions),
      (∀ r, Report.compile dir (.engine tables) d s engine o = .ok r ↔
        Report.compile dir (.listed tables) d s engine o = .ok r ∧ HasValueTables dir tables d) ∧
      (∀ r, Report.compile dir (.listed tables) d s engine o = .ok r →
        ¬HasValueTables dir tables d →
        Report.compile dir (.engine tables) d s engine o = .error .noSuchTable) ∧
      (∀ w ∈ [Warehouse.listed tables, .engine tables], ∀ ctx,
        CompiledFrom dir w d s engine o ctx → LeavesEmpty tables ctx) ∧
      ∀ side, engine.render (CustomColumns.emptyColumn.on side) = "''" := by
  have hlisted (fields : List CustomField) : (Inspector.fresh (.listed tables)).answers fields =
      fields.map fun c => .ok (decide (c.IsStoredIn tables)) := by
    rw [(Inspector.reflects_fresh _).answers]
    exact List.map_congr_left fun c _ => CustomField.isMaterialized_listed tables c
  have hengine (fields : List CustomField) : (Inspector.fresh (.engine tables)).answers fields =
      fields.map fun c =>
        if c.HasTable tables then .ok (decide (c.IsStoredIn tables)) else .error .noSuchTable := by
    rw [(Inspector.reflects_fresh _).answers]
    refine List.map_congr_left fun c _ => ?_
    rw [CustomField.isMaterialized_engine, CustomField.isMaterialized_listed]
  refine ⟨hlisted, hengine, fun fields => ?_, fun dir d s engine o => ⟨fun r => ?_, ?_, ?_, ?_⟩⟩
  · rw [hlisted, hengine, List.map_inj_left]
    refine forall₂_congr fun c _ => ?_
    split
    · next h => exact iff_of_true rfl h
    · next h => exact iff_of_false (fun heq => by cases heq) h
  · constructor
    · intro h
      have hr := (orRefused_compile dir d s engine o).eq_ok h
      exact ⟨hr, (compile_engine_returns_iff hr).mp ⟨r, h⟩⟩
    · exact fun ⟨h, htables⟩ => (compile_engine_of_listed h).1 htables
  · exact fun r h => (compile_engine_of_listed h).2
  · intro w hw ctx h
    rcases List.mem_pair.mp hw with rfl | rfl
    · exact leavesEmpty_of_context (Warehouse.tellsOf_listed tables) h.gathered
    · exact leavesEmpty_of_context (Warehouse.tellsOf_engine tables) h.gathered
  · intro side
    cases side <;> rfl

def userTable : List (String × List String) := [("core_user_field_value", ["id_user", "FIELD_4"])]

theorem hasValueTables_userTable (d : Definition) (hd : d.type = .usersCourses) :
    HasValueTables knowing userTable d := by
  intro text _ c hc known hknown hknows
  have hentity : c.entity ∈ ReportType.usersCourses.entities :=
    hd ▸ (customField?_eq_some_iff.mp hc).2
  have htold := (tells_knowing .usersCourses).told c.entity hentity
  cases Except.ok.inj (hknown.symm.trans htold)
  obtain ⟨entity, number⟩ := c
  cases entity with
  | user => rfl
  | _ => exact absurd hknows (by simp [CustomFields.Knows, knownOffice])

theorem inspectors_agree_iff_userTable :
    (Inspector.fresh (.engine userTable)).answers [⟨.user, 4⟩, ⟨.course, 4⟩, ⟨.user, 3⟩] =
      [.ok true, .error .noSuchTable, .ok false] ∧
    (Inspector.fresh (.listed userTable)).answers [⟨.user, 4⟩, ⟨.course, 4⟩, ⟨.user, 3⟩] =
      [.ok true, .ok false, .ok false] ∧
    HasValueTables knowing userTable onFourFields ∧
    ∃ r, Report.compile knowing (.listed userTable) onFourFields plainUser .athena {} = .ok r ∧
      Report.compile knowing (.engine userTable) onFourFields plainUser .athena {} = .ok r := by
  obtain ⟨hlisted, hengine, -, hreports⟩ := inspectors_agree_iff userTable
  have htables := hasValueTables_userTable onFourFields rfl
  refine ⟨(hengine _).trans ?_, (hlisted _).trans ?_, htables, ?_⟩
  · rfl
  · rfl
  · obtain ⟨r, hr⟩ : ∃ r, Report.compile knowing (.listed userTable) onFourFields plainUser
        .athena {} = .ok r := ⟨_, rfl⟩
    exact ⟨r, hr, ((hreports knowing onFourFields plainUser .athena {}).1 r).mpr ⟨hr, htables⟩⟩

/-- Without the value table of users, an engine refuses a field of theirs and a report on it, while
a list has the field as not stored and the report is made. -/
theorem engine_refuses_missing_table :
    (Inspector.fresh (.engine [])).answers [⟨.user, 3⟩] = [.error .noSuchTable] ∧
    (Inspector.fresh (.listed [])).answers [⟨.user, 3⟩] = [.ok false] ∧
    Report.compile knowing (.engine []) onFourFields plainUser .athena {} = .error .noSuchTable ∧
    ∃ r, Report.compile knowing (.listed []) onFourFields plainUser .athena {} = .ok r :=
  ⟨rfl, rfl, rfl, _, rfl⟩

end LearningReports
