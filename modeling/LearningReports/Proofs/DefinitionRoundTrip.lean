import LearningReports.Definition.Decode
import LearningReports.Definition.Encode

/-! # Definitions that are written and read again

Reading undoes writing, member by member. The bounds of the dates alone can stand in the way: they
may hold any value, and only texts are read. -/
namespace LearningReports

namespace Checked

variable {α β : Type}

def isValid : Checked α → Bool
  | .valid _ => true
  | .invalid _ => false

@[simp] theorem isValid_valid (a : α) : isValid (.valid a) = true := rfl

@[simp] theorem isValid_map (f : α → β) (x : Checked α) : isValid (f <$> x) = isValid x := by
  cases x with
  | valid a => rfl
  | invalid issues => rfl

@[simp] theorem isValid_seq (f : Checked (α → β)) (x : Checked α) :
    isValid (f <*> x) = (isValid f && isValid x) := by
  cases f with
  | valid g =>
    cases x with
    | valid a => rfl
    | invalid issues => rfl
  | invalid issues =>
    cases x with
    | valid a => rfl
    | invalid others => rfl

@[simp] theorem isValid_at (step : Step) (x : Checked α) : isValid (x.at step) = isValid x := by
  cases x with
  | valid a => rfl
  | invalid issues => rfl

@[simp] theorem map_pure (f : α → β) (a : α) : f <$> (Checked.valid a) = .valid (f a) := rfl

@[simp] theorem ap_valid (f : α → β) (a : α) :
    (Checked.valid f <*> Checked.valid a) = .valid (f a) := rfl

end Checked

namespace Decode

variable {α : Type}

/-! ## Parts -/

/-- Reading undoes writing. -/
abbrev Undoes (d : Decoder α) (e : α → Json) : Prop := ∀ a, d (e a) = .valid a

theorem itemsFrom_map {d : Decoder α} {e : α → Json} (h : Undoes d e) (i : Nat) (as : List α) :
    itemsFrom d i (as.map e) = .valid as := by
  induction as generalizing i with
  | nil => rfl
  | cons a as ih =>
    rw [List.map_cons, itemsFrom, h a, ih]
    rfl

theorem undoes_list {d : Decoder α} {e : α → Json} (h : Undoes d e) :
    Undoes (list d) (.ofList e) :=
  fun as => itemsFrom_map h 0 as

theorem undoes_nullable {d : Decoder α} {e : α → Json} (h : Undoes d e)
    (hnull : ∀ a, e a ≠ .null) : Undoes (nullable d) (.ofOption e) := by
  intro o
  cases o with
  | none => rfl
  | some a =>
    rw [Json.ofOption, nullable, h a]
    · rfl
    · exact hnull a

@[simp] theorem text_str (s : String) : text (.str s) = .valid s := rfl

@[simp] theorem int_int (n : Int) : int (.int n) = .valid n := rfl

@[simp] theorem bool_bool (b : Bool) : bool (.bool b) = .valid b := rfl

@[simp] theorem undoes_texts : Undoes (list text) Json.texts := undoes_list text_str

@[simp] theorem undoes_integers : Undoes (list int) (.ofList .int) := undoes_list int_int

@[simp] theorem undoes_optionalText : Undoes (nullable text) (.ofOption .str) :=
  undoes_nullable text_str nofun

/-! ## Enumerated values -/

@[simp] theorem undoes_reportType : Undoes (oneOf ReportType.named) fun t => .str t.name := by
  intro t
  cases t <;> rfl

@[simp] theorem undoes_conditions :
    Undoes (oneOf DateConditions.named) fun c => .str (nameIn DateConditions.named c) := by
  intro c
  cases c <;> rfl

@[simp] theorem undoes_selector :
    Undoes (oneOf SortSelector.named) fun s => .str (nameIn SortSelector.named s) := by
  intro s
  cases s <;> rfl

@[simp] theorem undoes_direction :
    Undoes (oneOf SortDirection.named) fun s => .str (nameIn SortDirection.named s) := by
  intro s
  cases s <;> rfl

@[simp] theorem undoes_timeFrame :
    Undoes (oneOf TimeFrame.named) fun f => .str (nameIn TimeFrame.named f) := by
  intro f
  cases f <;> rfl

@[simp] theorem undoes_courseKind :
    Undoes (oneOfNumbered CourseKind.numbered) fun k => .int (numberIn CourseKind.numbered k) := by
  intro k
  cases k <;> rfl

@[simp] theorem undoes_scope :
    Undoes (oneOfNumbered EnrollmentScope.numbered) fun s =>
      .int (numberIn EnrollmentScope.numbered s) := by
  intro s
  cases s <;> rfl

@[simp] theorem undoes_audience : Undoes (nullable (oneOfNumbered Audience.numbered))
    (.ofOption fun a => .int (numberIn Audience.numbered a)) :=
  undoes_nullable (fun a => by cases a <;> rfl) nofun

/-! ## Records -/

theorem undoes_selectedItem : Undoes selectedItem Encode.selectedItem := by
  intro i
  simp [selectedItem, Encode.selectedItem, record, object, required, optional, member?, lookup?]

@[simp] theorem undoes_selection : Undoes (list selectedItem) Encode.selection :=
  undoes_list undoes_selectedItem

@[simp] theorem undoes_visibility : Undoes visibility Encode.visibility := by
  intro v
  simp [visibility, Encode.visibility, record, object, selection, optional, member?, lookup?]

@[simp] theorem undoes_sorting : Undoes sorting Encode.sorting := by
  intro s
  simp [sorting, Encode.sorting, record, object, optional, member?, lookup?]

@[simp] theorem undoes_planning : Undoes planning Encode.planning := by
  intro p
  simp [planning, Encode.planning, planningOption, Encode.planningOption, record, object, optional,
    member?, lookup?]

@[simp] theorem undoes_editor : Undoes editor Encode.editor := by
  intro e
  simp [editor, Encode.editor, record, object, optional, member?, lookup?]

@[simp] theorem undoes_usersFilter :
    Undoes (nullable usersFilter) (.ofOption Encode.usersFilter) := by
  refine undoes_nullable (fun f => ?_) nofun
  simp [usersFilter, Encode.usersFilter, record, object, selection, optional, member?, lookup?]

@[simp] theorem undoes_coursesFilter :
    Undoes (nullable coursesFilter) (.ofOption Encode.coursesFilter) := by
  refine undoes_nullable (fun f => ?_) nofun
  simp [coursesFilter, Encode.coursesFilter, record, object, selection, optional, member?, lookup?]

@[simp] theorem undoes_entityFilter {name : String} (hname : name ≠ "all") (alternative : String) :
    Undoes (nullable (entityFilter name alternative)) (.ofOption (Encode.entityFilter name)) := by
  refine undoes_nullable (fun f => ?_) nofun
  simp [entityFilter, Encode.entityFilter, record, object, selection, optional, member?, lookup?,
    hname.symm]

@[simp] theorem undoes_assetsFilter :
    Undoes (nullable assetsFilter) (.ofOption Encode.assetsFilter) := by
  refine undoes_nullable (fun f => ?_) nofun
  simp [assetsFilter, Encode.assetsFilter, record, object, selection, optional, member?, lookup?]

@[simp] theorem undoes_enrollmentFilter :
    Undoes (nullable enrollmentFilter) (.ofOption Encode.enrollmentFilter) := by
  refine undoes_nullable (fun f => ?_) nofun
  simp [enrollmentFilter, Encode.enrollmentFilter, record, object, optional, member?, lookup?]

@[simp] theorem undoes_attendanceFilter :
    Undoes (nullable attendanceFilter) (.ofOption Encode.attendanceFilter) := by
  refine undoes_nullable (fun f => ?_) nofun
  simp [attendanceFilter, Encode.attendanceFilter, record, object, optional, member?, lookup?]

end Decode

/-! ## Dates -/

def DateOption.HasTextBounds (o : DateOption) : Prop :=
  o.first.text?.isSome = true ∧ o.last.text?.isSome = true

namespace Decode

theorem isValid_bound (v : Json) : (bound v.finite).isValid = v.text?.isSome := by
  cases v with
  | float x => cases x <;> rfl
  | _ => rfl

theorem bound_text {v : Json} (h : v.text?.isSome = true) : bound v.finite = .valid v := by
  cases v with
  | str s => rfl
  | _ => cases h

theorem dateOption_of_textBounds {o : DateOption} (h : o.HasTextBounds) :
    dateOption (Encode.dateOption o) = .valid o := by
  simp [dateOption, Encode.dateOption, record, object, optional, member?, lookup?,
    bound_text h.1, bound_text h.2]

theorem isValid_dateOption (o : DateOption) :
    (dateOption (Encode.dateOption o)).isValid = true ↔ o.HasTextBounds := by
  simp [dateOption, Encode.dateOption, record, object, optional, member?, lookup?, isValid_bound,
    DateOption.HasTextBounds]

/-- A date that may be missing has text bounds where it is there. -/
def TextDate (o : Option DateOption) : Prop := ∀ x ∈ o, x.HasTextBounds

theorem nullable_dateOption {o : Option DateOption} (h : TextDate o) :
    nullable dateOption (.ofOption Encode.dateOption o) = .valid o := by
  cases o with
  | none => rfl
  | some x =>
    change (dateOption (Encode.dateOption x)).map some = .valid (some x)
    rw [dateOption_of_textBounds (h x rfl)]
    rfl

theorem isValid_nullable_dateOption (o : Option DateOption) :
    (nullable dateOption (.ofOption Encode.dateOption o)).isValid = true ↔ TextDate o := by
  cases o with
  | none => simp [TextDate, Json.ofOption, nullable]
  | some x =>
    change (some <$> dateOption (Encode.dateOption x)).isValid = true ↔ _
    simp [isValid_dateOption, TextDate]

def TextSessionDates (o : Option SessionDates) : Prop :=
  ∀ s ∈ o, s.start.HasTextBounds ∧ s.finish.HasTextBounds

theorem nullable_sessionDates {o : Option SessionDates} (h : TextSessionDates o) :
    nullable sessionDates (.ofOption Encode.sessionDates o) = .valid o := by
  cases o with
  | none => rfl
  | some s =>
    change (sessionDates (Encode.sessionDates s)).map some = .valid (some s)
    obtain ⟨hstart, hfinish⟩ := h s rfl
    have hs : sessionDates (Encode.sessionDates s) = .valid s := by
      simp [sessionDates, Encode.sessionDates, record, object, optional, member?, lookup?,
        dateOption_of_textBounds, hstart, hfinish]
    rw [hs]
    rfl

theorem isValid_nullable_sessionDates (o : Option SessionDates) :
    (nullable sessionDates (.ofOption Encode.sessionDates o)).isValid = true ↔
      TextSessionDates o := by
  cases o with
  | none => simp [TextSessionDates, Json.ofOption, nullable]
  | some s =>
    change (some <$> sessionDates (Encode.sessionDates s)).isValid = true ↔ _
    simp [sessionDates, Encode.sessionDates, record, object, optional, member?, lookup?,
      isValid_dateOption, TextSessionDates]

end Decode

/-! ## Definitions -/

/-- The bounds of all dates of a definition are texts. -/
structure Definition.HasTextBounds (d : Definition) : Prop where
  enrollment : Decode.TextDate d.enrollmentDate
  completion : Decode.TextDate d.completionDate
  surveyCompletion : Decode.TextDate d.surveyCompletionDate
  archiving : Decode.TextDate d.archivingDate
  courseExpiration : Decode.TextDate d.courseExpirationDate
  published : Decode.TextDate d.publishedDate
  sessions : Decode.TextSessionDates d.sessionDates

namespace Decode

variable {d : Definition}

theorem integerTable_nil : integerTable (Encode.integerTable []) = .valid [] := rfl

theorem definition_of_options
    (htable : integerTable (Encode.integerTable d.userFieldOptions) = .valid d.userFieldOptions)
    (h : d.HasTextBounds) : definition (Encode.definition d) = .valid d := by
  simp [definition, Encode.definition, record, object, required, optional, maybe, member?, lookup?,
    htable, nullable_dateOption, nullable_sessionDates, h.enrollment, h.completion,
    h.surveyCompletion, h.archiving, h.courseExpiration, h.published, h.sessions]

theorem definition_of_textBounds (htable : d.userFieldOptions = []) (h : d.HasTextBounds) :
    definition (Encode.definition d) = .valid d :=
  definition_of_options (by rw [htable, integerTable_nil]) h

theorem isValid_definition (htable : d.userFieldOptions = []) :
    (definition (Encode.definition d)).isValid = true ↔ d.HasTextBounds := by
  have hempty : integerTable (Encode.integerTable d.userFieldOptions) =
      .valid d.userFieldOptions := by
    rw [htable, integerTable_nil]
  have hparts : (definition (Encode.definition d)).isValid = true ↔
      (((((TextDate d.enrollmentDate ∧ TextDate d.completionDate) ∧
        TextDate d.surveyCompletionDate) ∧ TextDate d.archivingDate) ∧
        TextDate d.courseExpirationDate) ∧ TextDate d.publishedDate) ∧
        TextSessionDates d.sessionDates := by
    simp [definition, Encode.definition, record, object, required, optional, maybe, member?,
      lookup?, hempty, isValid_nullable_dateOption, isValid_nullable_sessionDates]
  rw [hparts]
  constructor
  · rintro ⟨⟨⟨⟨⟨⟨he, hc⟩, hs⟩, ha⟩, hx⟩, hp⟩, hd⟩
    exact ⟨he, hc, hs, ha, hx, hp, hd⟩
  · rintro ⟨he, hc, hs, ha, hx, hp, hd⟩
    exact ⟨⟨⟨⟨⟨⟨he, hc⟩, hs⟩, ha⟩, hx⟩, hp⟩, hd⟩

/-- A definition is read again exactly when the bounds of its dates are texts, and then unchanged.
-/
theorem definition_eq_valid_iff (htable : d.userFieldOptions = []) :
    definition (Encode.definition d) = .valid d ↔ d.HasTextBounds := by
  refine ⟨fun h => ?_, definition_of_textBounds htable⟩
  rw [← isValid_definition htable, h]
  rfl

end Decode
end LearningReports
