import LearningReports.Proofs.ColumnParts
import LearningReports.Proofs.QueryOutlines
import Mathlib.Data.List.Basic

/-! # Outlines of columns

A column depends on the texts of a definition only through the time zone. It is closed when the
time zone is, and for a custom field of the enrollments when the language codes are. -/
namespace LearningReports

open Sql (Expr Fragment)
open Text (isPaired isPlain)

def DateOption.outline (o : DateOption) : DateOption :=
  { o with first := .bool o.first.isPresent, last := .bool o.last.isPresent }

def SessionDates.outline (s : SessionDates) : SessionDates :=
  { s with start := s.start.outline, finish := s.finish.outline }

/-- The definition without the text of its time zone and the texts of the bounds of its dates.
Whether a bound is there is kept. -/
def Definition.outline (d : Definition) : Definition :=
  { d with
    timezone := ""
    enrollmentDate := d.enrollmentDate.map DateOption.outline
    completionDate := d.completionDate.map DateOption.outline
    surveyCompletionDate := d.surveyCompletionDate.map DateOption.outline
    archivingDate := d.archivingDate.map DateOption.outline
    courseExpirationDate := d.courseExpirationDate.map DateOption.outline
    publishedDate := d.publishedDate.map DateOption.outline
    sessionDates := d.sessionDates.map SessionDates.outline }

def Definition.Selects (d : Definition) (e : Entity) : Prop :=
  ∃ text ∈ d.fields, ∃ c, CustomField.parse text = .ok (some c) ∧ c.entity = e

def Context.outlined (ctx : Context) : Context := { ctx with definition := ctx.definition.outline }

namespace Column

def isClosed (p : String → Bool) (c : Column) : Bool :=
  c.live.isClosed p && c.archived.isClosed p
    && c.liveParts.all (Fragment.isClosed p) && c.archiveParts.all (Fragment.isClosed p)

def outline (c : Column) : Column :=
  { c with live := c.live.outline, archived := c.archived.outline }

end Column

/-! ## Standard fields -/

theorem outline_column {t : ReportType} {f : Field} {build : Builder}
    (h : t.column? f = some build) (ctx : Context) :
    (build ctx).outline = (build ctx.outlined).outline := by
  refine t.eq_of_map_builders (v := fun b => (b ctx).outline)
    (w := fun b => (b ctx.outlined).outline) h ?_
  cases t with
  | _ => rfl

/-- A context that knows no more than the type of a report and the order of names. -/
def Context.sample (t : ReportType) (firstNameFirst : Bool) : Context :=
  { definition := { idReport := "", type := t }
    session := { idUser := 0, platform := { firstNameFirst := firstNameFirst } } }

def Field.showsTime (t : ReportType) (f : Field) : Bool :=
  (t.column? f).any fun build => !(build (.sample t true)).isClosed fun _ => false

def Definition.ShowsTime (d : Definition) : Prop :=
  ∃ text ∈ d.fields, ∃ f, Field.ofId? text = some f ∧ f.showsTime d.type = true

theorem isClosed_sample : ∀ t ∈ ReportType.all, ∀ first ∈ [true, false], ∀ f ∈ Field.all,
    ∀ zone ∈ [true, false], (f.showsTime t = true → zone = true) →
      ((t.column? f).all fun build => (build (.sample t first)).isClosed fun _ => zone) = true := by
  intro t _
  cases t with
  | _ => decide +kernel

/-- Whether a column is closed depends on nothing but the type of the report, the order of names
and whether the time zone may stand where it does. -/
theorem isClosed_eq_sample {ctx : Context} {f : Field} {build : Builder} {p : String → Bool}
    (h : ctx.type.column? f = some build) :
    (build ctx).isClosed p =
      (build (.sample ctx.type ctx.session.platform.firstNameFirst)).isClosed
        fun _ => p ctx.timezone := by
  have hviews : (ctx.type.column? f).map (fun b => (b ctx).isClosed p) =
      (ctx.type.column? f).map fun b =>
        (b (.sample ctx.type ctx.session.platform.firstNameFirst)).isClosed
          fun _ => p ctx.timezone := by
    clear h
    obtain ⟨⟨id, type⟩, ⟨idUser, level, lang, langCode, timezone, platform⟩, labels, wordings,
      ⟨users, courses⟩, fields, conditions⟩ := ctx
    obtain ⟨url, language, code, plugins, toggles, first, assignments, limits⟩ := platform
    -- Only names of users depend on their order, and only the list of skills on the filter of
    -- courses, so the split is by field and not along the list of builders.
    cases type <;> cases f <;>
      first
        | rfl
        | (cases first <;> rfl)
        | (rcases courses with _ | _ | _ <;> rfl)
  rw [h] at hviews
  exact Option.some.inj hviews

theorem isClosed_column {ctx : Context} {f : Field} {build : Builder} {p : String → Bool}
    (h : ctx.type.column? f = some build)
    (hzone : f.showsTime ctx.type = true → p ctx.timezone = true) :
    (build ctx).isClosed p = true := by
  have hbool (b : Bool) : b ∈ [true, false] := by
    cases b <;> decide
  have hsample := isClosed_sample ctx.type (ReportType.mem_all _)
    ctx.session.platform.firstNameFirst (hbool _) f (Field.mem_all f) _ (hbool _) hzone
  rw [h] at hsample
  rw [isClosed_eq_sample h]
  exact hsample

/-! ## Custom fields -/

section Custom

variable {p : String → Bool}

@[simp] theorem isClosed_value (ctx : Context) (e : Expr) :
    (ctx.value e).isClosed p = e.isClosed p := by
  unfold Context.value
  split <;> rfl

@[simp] theorem isClosed_yesNo (ctx : Context) (e : Expr) :
    (ctx.yesNo e).isClosed p = e.isClosed p := by
  simp [Context.yesNo, Context.wording, Expr.caseOf, Expr.arms, Expr.isClosed]

theorem isClosed_eq {a b : Expr} (ha : a.isClosed p = true) (hb : b.isClosed p = true) :
    (Expr.eq a b).isClosed p = true :=
  (Bool.and_eq_true _ _).mpr ⟨ha, hb⟩

theorem isClosed_and {a b : Expr} (ha : a.isClosed p = true) (hb : b.isClosed p = true) :
    (Expr.and a b).isClosed p = true :=
  (Bool.and_eq_true _ _).mpr ⟨ha, hb⟩

theorem isClosed_col {handle column : String} (hhandle : isPlain handle = true)
    (hcolumn : isPlain column = true) : (Expr.col handle column).isClosed p = true :=
  (Bool.and_eq_true _ _).mpr ⟨hhandle, hcolumn⟩

theorem isClosed_leftJoinAs {t : Table} {handle : String} {condition : Expr}
    (htable : isPlain t.name = true) (hhandle : isPlain handle = true)
    (hcondition : condition.isClosed p = true) :
    (t.leftJoinAs handle condition).isClosed p = true := by
  change (isPlain t.name && isPlain handle && condition.isClosed p && true) = true
  rw [htable, hhandle, hcondition]
  rfl

theorem isPlain_columnOf (n : Int) : isPlain (CustomField.columnOf n) = true := by
  rw [CustomField.columnOf, Text.isPlain_append, Text.isPlain_number]
  rfl

theorem isPlain_aliasFor (start : String) (h : isPlain start = true) (f : ResolvedField) :
    isPlain (CustomColumns.aliasFor start f) = true := by
  rw [CustomColumns.aliasFor, Text.isPlain_append, Text.isPlain_append, h]
  exact (Bool.and_eq_true _ _).mpr ⟨rfl, Text.isPlain_repr _⟩

theorem isClosed_valueCol {t : Table} (h : isPlain t.handle = true) (f : ResolvedField) :
    (CustomColumns.valueCol t f).isClosed p = true :=
  (Bool.and_eq_true _ _).mpr ⟨h, isPlain_columnOf _⟩

theorem isClosed_joinOptions (ctx : Context) (options : Table) {handle : String} {option : Expr}
    (htable : isPlain options.name = true) (hhandle : isPlain handle = true)
    (hoption : option.isClosed p = true) :
    (CustomColumns.joinOptions ctx options handle option).isClosed p = true :=
  isClosed_leftJoinAs htable hhandle
    (isClosed_and (isClosed_eq (isClosed_col hhandle (by decide)) hoption)
      (isClosed_eq (isClosed_col hhandle (by decide)) rfl))

theorem Column.isClosed_of_parts {c : Column} (hlive : c.live.isClosed p = true)
    (harchived : c.archived.isClosed p = true)
    (hlives : ∀ f ∈ c.liveParts, f.isClosed p = true)
    (harchives : ∀ f ∈ c.archiveParts, f.isClosed p = true) :
    c.isClosed p = true := by
  rw [Column.isClosed, hlive, harchived, List.all_eq_true.mpr hlives,
    List.all_eq_true.mpr harchives]
  rfl

theorem isClosed_user {key : Expr} (hkey : key.isClosed p = true) (ctx : Context)
    (f : ResolvedField) :
    (CustomColumns.user key ctx f).isClosed p = true := by
  have hstored : (CustomColumns.valueCol .userFieldValue f).isClosed p = true :=
    isClosed_valueCol rfl f
  have hjoined : (Table.userFieldValue.leftJoin
      (.eq (Table.userFieldValue.col "id_user") key)).isClosed p = true :=
    isClosed_leftJoinAs rfl rfl (isClosed_eq rfl hkey)
  unfold CustomColumns.user
  dsimp only
  split
  · refine Column.isClosed_of_parts ?_ rfl (by simpa using hjoined) (List.forall_mem_nil _)
    simpa [Expr.isClosed, Sql.Function.isClosed] using hstored
  · have hhandle := isPlain_aliasFor Table.userFieldOption.handle rfl f
    have hoptions := isClosed_joinOptions ctx .userFieldOption rfl hhandle
      hstored
    refine Column.isClosed_of_parts ?_ rfl (by simp [hjoined, hoptions]) (List.forall_mem_nil _)
    simpa using isClosed_col hhandle (by decide)
  · refine Column.isClosed_of_parts ?_ rfl (by simpa using hjoined) (List.forall_mem_nil _)
    simp [Expr.caseOf, Expr.arms, Expr.eq, Expr.empty, Expr.isClosed, Context.wording, hstored]
  · have hhandle := isPlain_aliasFor Table.country.handle rfl f
    refine Column.isClosed_of_parts ?_ rfl ?_ (List.forall_mem_nil _)
    · simpa using isClosed_col hhandle (by decide)
    · have hcountry : (Table.country.leftJoinAs (CustomColumns.aliasFor Table.country.handle f)
          (.eq (.col (CustomColumns.aliasFor Table.country.handle f) "id_country")
            (CustomColumns.valueCol .userFieldValue f))).isClosed p = true :=
        isClosed_leftJoinAs rfl hhandle (isClosed_eq (isClosed_col hhandle (by decide)) hstored)
      simp [hjoined, hcountry]
  · refine Column.isClosed_of_parts ?_ rfl (by simpa using hjoined) (List.forall_mem_nil _)
    simpa using hstored
  · exact Column.isClosed_of_parts rfl rfl (by simpa using hjoined) (List.forall_mem_nil _)

/-- A table of values of custom fields that can be joined. -/
structure Table.IsPlain (t : Table) : Prop where
  name : isPlain t.name = true
  handle : isPlain t.handle = true

theorem isClosed_keyed {values : Table} (hvalues : values.IsPlain) {column : String}
    (hcolumn : isPlain column = true) {key archived : Expr} (hkey : key.isClosed p = true)
    (harchived : archived.isClosed p = true) (ctx : Context) (f : ResolvedField) :
    (CustomColumns.keyed values column key archived ctx f).isClosed p = true := by
  have hstored : (CustomColumns.valueCol values f).isClosed p = true :=
    isClosed_valueCol hvalues.handle f
  have hjoined : (values.leftJoin (.eq (values.col column) key)).isClosed p = true :=
    isClosed_leftJoinAs hvalues.name hvalues.handle
      (isClosed_eq (isClosed_col hvalues.handle hcolumn) hkey)
  unfold CustomColumns.keyed CustomColumns.courseLike
  dsimp only
  split
  · refine Column.isClosed_of_parts ?_ harchived (by simpa using hjoined) (List.forall_mem_nil _)
    simpa [Expr.isClosed, Sql.Function.isClosed] using hstored
  · have hstart : isPlain (Table.courseFieldOption.handle ++ "_" ++ values.handle) = true := by
      rw [Text.isPlain_append, hvalues.handle]
      rfl
    have hhandle := isPlain_aliasFor _ hstart f
    have hoptions := isClosed_joinOptions ctx .courseFieldOption rfl hhandle
      hstored
    refine Column.isClosed_of_parts ?_ harchived (by simp [hjoined, hoptions])
      (List.forall_mem_nil _)
    simpa using isClosed_col hhandle (by decide)
  · refine Column.isClosed_of_parts ?_ harchived (by simpa using hjoined) (List.forall_mem_nil _)
    simpa [Expr.eq, Expr.isClosed] using hstored
  · refine Column.isClosed_of_parts ?_ harchived (by simpa using hjoined) (List.forall_mem_nil _)
    simpa using hstored
  · exact Column.isClosed_of_parts rfl harchived (by simpa using hjoined) (List.forall_mem_nil _)
  · exact Column.isClosed_of_parts rfl harchived (by simpa using hjoined) (List.forall_mem_nil _)

/-- The language codes of a session, where single quotes stand only in pairs. -/
structure Session.PairedCodes (s : Session) : Prop where
  caller : isPaired s.languageCode.asText = true
  platform : isPaired s.platform.defaultLanguageCode.asText = true

/-- Options of the enrollments are found by the language codes, which are not escaped. -/
theorem isClosed_enrollment {ctx : Context} (h : ctx.session.PairedCodes) (f : ResolvedField) :
    (CustomColumns.enrollment ctx f).isClosed isPaired = true := by
  have hstored : (Expr.apply (.field (toString f.field.number))
      (Table.enrollment.col "enrollment_fields")).isClosed isPaired = true :=
    (Bool.and_eq_true _ _).mpr ⟨Text.isPlain_repr _, rfl⟩
  unfold CustomColumns.enrollment
  dsimp only
  split
  · have hhandle := isPlain_aliasFor Table.enrollmentFieldOption.handle rfl f
    have hpattern : isPaired ("%\"" ++ ctx.session.languageCode.asText ++ "\":%") = true :=
      Text.isPaired_append (Text.isPaired_append rfl h.caller) rfl
    have hjoined : (Table.enrollmentFieldOption.leftJoinAs
        (CustomColumns.aliasFor Table.enrollmentFieldOption.handle f)
        (.eq (.col (CustomColumns.aliasFor Table.enrollmentFieldOption.handle f) "id")
          (.cast (.apply (.field (toString f.field.number))
            (Table.enrollment.col "enrollment_fields")) "INTEGER"))).isClosed
        isPaired = true :=
      isClosed_leftJoinAs rfl hhandle
        (isClosed_eq (isClosed_col hhandle (by decide)) ((Bool.and_eq_true _ _).mpr ⟨hstored, rfl⟩))
    refine Column.isClosed_of_parts ?_ rfl (by simpa using hjoined) (List.forall_mem_nil _)
    have hnames : (Expr.col (CustomColumns.aliasFor Table.enrollmentFieldOption.handle f)
        "translation").isClosed isPaired = true := isClosed_col hhandle (by decide)
    simpa [Expr.isClosed, Sql.Function.isClosed, hpattern, h.caller, h.platform] using hnames
  · refine Column.isClosed_of_parts ?_ rfl (List.forall_mem_nil _) (List.forall_mem_nil _)
    simpa using hstored

theorem CustomColumns.Made.isClosed {ctx : Context} {f : ResolvedField} {c : Column}
    (h : Made ctx f c) (hcodes : f.field.entity = .enrollment → ctx.session.PairedCodes) :
    c.isClosed isPaired = true := by
  cases h with
  | user => exact isClosed_user rfl ctx f
  | course => exact isClosed_keyed ⟨rfl, rfl⟩ rfl rfl rfl ctx f
  | session => exact isClosed_keyed ⟨rfl, rfl⟩ rfl rfl rfl ctx f
  | plan => exact isClosed_keyed ⟨rfl, rfl⟩ rfl rfl rfl ctx f
  | enrollment hentity => exact isClosed_enrollment (hcodes hentity) f
  | empty => rfl
  | unarchived => rfl

theorem customColumn_outlined (t : ReportType) (ctx : Context) (f : ResolvedField) :
    t.customColumn ctx.outlined f = t.customColumn ctx f := by
  cases t with
  | _ => rfl

end Custom

/-! ## Columns of a report -/

namespace Layout

def outlineFate : Fate → Fate
  | .column key c => .column key c.outline
  | f => f

theorem outline_fate (ctx : Context) (text : String) :
    outlineFate (fate ctx text) = outlineFate (fate ctx.outlined text) := by
  have hcustom (c : CustomField) : customFate ctx.outlined c = customFate ctx c := by
    unfold customFate
    rw [show ctx.outlined.customFields = ctx.customFields from rfl]
    cases lookup? c.key ctx.customFields with
    | none => rfl
    | some r =>
      have hcolumn : ctx.outlined.type.customColumn ctx.outlined r = ctx.type.customColumn ctx r :=
        customColumn_outlined ctx.type ctx r
      simp only [hcolumn]
  have hstandard : outlineFate (standardFate ctx text) =
      outlineFate (standardFate ctx.outlined text) := by
    unfold standardFate
    rw [show ctx.outlined.type = ctx.type from rfl]
    cases hbuild : (Field.ofId? text).bind ctx.type.column? with
    | none => rfl
    | some build =>
      obtain ⟨f, -, hf⟩ := Option.bind_eq_some_iff.mp hbuild
      exact congrArg (Fate.column text) (outline_column hf ctx)
  unfold fate
  rw [show isDropped ctx.outlined text = isDropped ctx text from rfl]
  split
  · rfl
  · split
    · rw [hcustom]
    · exact hstandard
    · rfl

def outlineColumn (c : String × Column) : String × Column := (c.1, c.2.outline)

/-- The columns of a report depend on the texts that outlines leave out only in expressions. -/
theorem outline_columns (ctx : Context) :
    (columns ctx).map outlineColumn = (columns ctx.outlined).map outlineColumn := by
  have hfilter (c : Context) : (columns c).map outlineColumn =
      c.definition.fields.filterMap fun text => match outlineFate (fate c text) with
        | .column key column => some (key, column)
        | _ => none := by
    rw [columns, fates, List.filterMap_map, List.map_filterMap]
    refine List.filterMap_congr fun text _ => ?_
    cases h : fate c text with
    | _ =>
      simp only [Function.comp, h]
      rfl
  rw [hfilter, hfilter]
  refine List.filterMap_congr fun text _ => ?_
  rw [outline_fate]

theorem keys_outlined (ctx : Context) :
    (columns ctx.outlined).map Prod.fst = (columns ctx).map Prod.fst := by
  have h := congrArg (List.map Prod.fst) (outline_columns ctx)
  rw [List.map_map, List.map_map] at h
  exact h.symm

theorem isClosed_of_mem_columns {ctx : Context} {key : String} {c : Column}
    (h : (key, c) ∈ columns ctx)
    (hzone : ctx.definition.ShowsTime → isPaired ctx.timezone = true)
    (hkeys : ∀ key r, lookup? key ctx.customFields = some r → key = r.field.key)
    (hcodes : ctx.definition.Selects .enrollment → ctx.session.PairedCodes) :
    c.isClosed isPaired = true := by
  obtain ⟨text, htext, hfated⟩ := fated_of_mem_columns h
  cases hfated with
  | standard _ hf hb => exact isClosed_column hb fun htime => hzone ⟨key, htext, _, hf, htime⟩
  | @custom _ r _ hc hr =>
    unfold customColumn
    split
    · have hmade := CustomColumns.made_customColumn ctx.type ctx r
      refine hmade.isClosed fun hentity => hcodes ⟨text, htext, _, hc, ?_⟩
      rw [CustomField.key_injective (hkeys _ _ hr)]
      exact hentity
    · rfl

end Layout
end LearningReports
