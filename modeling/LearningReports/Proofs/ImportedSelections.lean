import LearningReports.Proofs.ImportedDefinitions
import LearningReports.Proofs.Occurs
import Mathlib.Data.List.Forall2
import Mathlib.Data.List.TakeWhile

/-! # Imported selections

A legacy selection lists entities, each by an id or by a record that has one under one of two names.
Its import keeps every entry with a usable id, in order, but for one kind of records: where the
first name stands with a null or a blank, it hides the second one and the entry is lost. A filter
keeps everything exactly when all usable entries of its selections are hidden. -/
namespace LearningReports

/-! ## Blank texts -/

namespace Text

theorem strip_eq_nil_iff {p : Char → Bool} {cs : List Char} :
    strip p cs = [] ↔ ∀ c ∈ cs, p c = true := by
  unfold strip
  rw [List.reverse_eq_nil_iff, List.dropWhile_eq_nil_iff]
  constructor
  · intro h c hc
    rw [← List.takeWhile_append_dropWhile (p := p) (l := cs)] at hc
    rcases List.mem_append.mp hc with hfront | hback
    · exact List.mem_takeWhile_imp hfront
    · exact h c (List.mem_reverse.mpr hback)
  · intro h c hc
    exact h c ((List.dropWhile_suffix p).subset (List.mem_reverse.mp hc))

theorem mem_of_mem_strip {p : Char → Bool} {c : Char} {cs : List Char} (h : c ∈ strip p cs) :
    c ∈ cs := by
  have hback := (List.dropWhile_suffix p).subset (List.mem_reverse.mp h)
  exact (List.dropWhile_suffix p).subset (List.mem_reverse.mp hback)

theorem isEmpty_trim_iff {s : String} :
    (trim s).isEmpty = true ↔ ∀ c ∈ s.toList, isBlank c = true := by
  rw [String.isEmpty_iff, trim, String.ofList_eq_empty_iff, strip_eq_nil_iff]

theorem isEmpty_trim_of_mem {s : String} {c : Char} (h : c ∈ s.toList) (hc : isBlank c = false) :
    (trim s).isEmpty = false := by
  cases hempty : (trim s).isEmpty with
  | false => rfl
  | true => rw [isEmpty_trim_iff.mp hempty c h] at hc; cases hc

theorem digitValue?_of_isBlank {c : Char} (h : isBlank c = true) : digitValue? c = none := by
  have hcodes : ∀ n ∈ spacingCodes ++ [0x1c, 0x1d, 0x1e, 0x1f],
      digitZeros.find? (fun base => base ≤ n && n < base + 10) = none := by decide
  have hcode : c.toNat ∈ spacingCodes ++ [0x1c, 0x1d, 0x1e, 0x1f] := by
    simp only [isBlank, isSpacing, Bool.or_eq_true, List.contains_iff_mem, Bool.and_eq_true,
      decide_eq_true_eq] at h
    rcases h with h | h
    · exact List.mem_append_left _ h
    · refine List.mem_append_right _ ?_
      simp only [List.mem_cons, List.not_mem_nil, or_false]
      omega
  rw [digitValue?, hcodes _ hcode, Option.map_none]

end Text

theorem Number.readInteger_of_blank {s : String} (h : (Text.trim s).isEmpty = true) :
    readInteger s = .error .malformed := by
  have hblank : ∀ c ∈ Text.strip Text.isSpacing s.toList, Text.isBlank c = true := fun c hc =>
    Text.isEmpty_trim_iff.mp h c (Text.mem_of_mem_strip hc)
  unfold readInteger
  cases hcs : Text.strip Text.isSpacing s.toList with
  | nil => rfl
  | cons c cs =>
    have hc : Text.isBlank c = true := hblank c (by rw [hcs]; exact .head _)
    have hne {d : Char} (hd : Text.isBlank d = false) : c ≠ d := by
      rintro rfl
      rw [hc] at hd
      cases hd
    have hsign : signOf (c :: cs) = (false, c :: cs) := by
      unfold signOf
      split
      · rename_i heq
        exact absurd (List.cons.inj heq).1 (hne rfl)
      · rename_i heq
        exact absurd (List.cons.inj heq).1 (hne rfl)
      · rfl
    have hrun : digitRun (c :: cs) = some ([], c :: cs) := by
      rw [digitRun, Text.digitValue?_of_isBlank hc]
      · exact fun h => absurd h (hne rfl)
      · exact fun _ _ h => absurd h (hne rfl)
    have hdigits : leadingDigits (c :: cs) = none := by
      unfold leadingDigits
      split
      · rfl
      · rw [hrun]
    rw [hsign]
    dsimp only
    rw [hdigits]

/-! ## Usable ids -/

theorem Number.exists_solid_text (x : Number.Binary64) :
    ∃ c ∈ x.text.toList, Text.isBlank c = false := by
  cases x with
  | nan => exact ⟨'n', by decide, by decide⟩
  | infinite negative => cases negative <;> exact ⟨'n', by decide, by decide⟩
  | finite negative m e =>
    have hbody : ∃ c ∈
        (if m = 0 then ['0', '.', '0'] else (Number.shortest m e).text Number.numberFormat),
        Text.isBlank c = false := by
      split
      · exact ⟨'.', by decide, by decide⟩
      · unfold Number.Decimal.text
        dsimp only
        split
        · split
          · exact ⟨'.', by decide, by decide⟩
          · exact ⟨'e', by simp, by decide⟩
          · exact ⟨'e', by simp, by decide⟩
        · split
          · exact ⟨'.', by simp, by decide⟩
          · exact ⟨'.', by simp, by decide⟩
    obtain ⟨c, hc, hsolid⟩ := hbody
    refine ⟨c, ?_, hsolid⟩
    rw [Number.Binary64.text, String.toList_ofList]
    cases negative with
    | false => exact hc
    | true => exact List.mem_cons_of_mem _ hc

namespace Json

theorem exists_solid_asText {v : Json} (hnull : v ≠ .null) (htext : v.isText = false) :
    ∃ c ∈ v.asText.toList, Text.isBlank c = false := by
  cases v with
  | null => exact absurd rfl hnull
  | str s => cases htext
  | bool b => cases b <;> exact ⟨'e', by decide, by decide⟩
  | int n =>
    obtain ⟨cs, c, hcs, hc⟩ := Text.endsSolid_number n
    have hmem : c ∈ (toString n).toList := by
      rw [hcs]
      exact List.mem_append_right _ (.head _)
    exact ⟨c, hmem, hc⟩
  | float x => exact Number.exists_solid_text x
  | arr items => exact ⟨'[', by simp [asText, shown], by decide⟩
  | obj ms => exact ⟨'\x7b', by simp [asText, shown], by decide⟩

end Json

namespace Legacy

/-- Null and texts of nothing but blanks are no ids. -/
def isUsable : Json → Bool
  | .null => false
  | .str s => !(Text.trim s).isEmpty
  | _ => true

/-- Where the id of an entry can stand: under two names of a record, or bare. -/
def idSources : Json → List Json
  | .obj ms => (lookup? "id" ms).toList ++ (lookup? "key" ms).toList
  | v => [v]

/-- The first usable id of an entry. -/
def usableId? (entry : Json) : Option Json := (idSources entry).find? isUsable

/-- The entry has a usable id under the second name, and under the first one something that is no
id. -/
def hidesId : Json → Bool
  | .obj ms => (lookup? "id" ms).any (!isUsable ·) && (lookup? "key" ms).any isUsable
  | _ => false

/-- The usable ids of the entries that hide none. -/
def openIds (entries : List Json) : List Json :=
  (entries.filter (!hidesId ·)).filterMap usableId?

theorem isEmpty_trim_asText {v : Json} (hnull : v ≠ .null) :
    (Text.trim v.asText).isEmpty = !isUsable v := by
  have hsolid (htext : v.isText = false) : (Text.trim v.asText).isEmpty = false := by
    obtain ⟨c, hc, hblank⟩ := Json.exists_solid_asText hnull htext
    exact Text.isEmpty_trim_of_mem hc hblank
  cases v with
  | null => exact absurd rfl hnull
  | str s => exact (Bool.not_not _).symm
  | _ => exact hsolid rfl

theorem eq_of_isBlankId {room : Nat} {v : Json} {b : Bool} (h : isBlankId room v = .ok b) :
    b = !isUsable v := by
  rw [isBlankId.eq_def] at h
  split at h
  case h_1 => cases h; rfl
  case h_2 hnull =>
    obtain ⟨text, htext, h⟩ := Returns.of_bind (m := Outcome) h
    cases h
    rw [← (Json.textWithin_eq_ok_iff.mp htext).2]
    exact isEmpty_trim_asText hnull

theorem isUsable_of_toInteger {v : Json} {n : Int} (h : v.toInteger = .ok n) :
    isUsable v = true := by
  cases v with
  | null => cases h
  | str s =>
    cases hblank : (Text.trim s).isEmpty with
    | false => simp [isUsable, hblank]
    | true =>
      rw [Json.toInteger, Number.readInteger_of_blank hblank] at h
      cases h
  | _ => rfl

theorem eq_null_of_isNull {v : Json} (h : isNull v = true) : v = .null := by
  cases v with
  | null => rfl
  | _ => cases h

section Entries

variable {entry : Json} {entries : List Json}

/-- The import takes the id of an entry that hides none. -/
theorem usableId?_of_open (h : hidesId entry = false) :
    usableId? entry = if isUsable (idOf entry) then some (idOf entry) else none := by
  cases entry with
  | obj ms =>
    change ((lookup? "id" ms).any (!isUsable ·) && (lookup? "key" ms).any isUsable) = false at h
    change ((lookup? "id" ms).toList ++ (lookup? "key" ms).toList).find? isUsable =
      if isUsable (((lookup? "id" ms).orElse fun _ => lookup? "key" ms).getD .null) then
        some (((lookup? "id" ms).orElse fun _ => lookup? "key" ms).getD .null) else none
    cases hid : lookup? "id" ms with
    | none =>
      cases hkey : lookup? "key" ms with
      | none => rfl
      | some key => cases hu : isUsable key <;> simp [hu]
    | some id =>
      rw [hid] at h
      cases hu : isUsable id with
      | true => simp [hu]
      | false =>
        cases hkey : lookup? "key" ms with
        | none => simp [hu]
        | some key =>
          have hk : isUsable key = false := by simpa [hu, hkey] using h
          simp [hu, hk]
  | _ =>
    change [_].find? isUsable = _
    rw [List.find?_singleton]
    rfl

theorem isUsable_idOf_of_hidesId (h : hidesId entry = true) :
    isUsable (idOf entry) = false ∧ (usableId? entry).isSome = true := by
  cases entry with
  | obj ms =>
    change ((lookup? "id" ms).any (!isUsable ·) && (lookup? "key" ms).any isUsable) = true at h
    cases hid : lookup? "id" ms with
    | none => simp [hid] at h
    | some id =>
      cases hkey : lookup? "key" ms with
      | none => simp [hkey] at h
      | some key =>
        simp only [hid, hkey, Option.any_some, Bool.and_eq_true, Bool.not_eq_true'] at h
        simp [idOf, usableId?, idSources, hid, hkey, h.1, h.2]
  | _ => cases h

theorem filter_map_idOf (entries : List Json) :
    (entries.map idOf).filter isUsable = openIds entries := by
  induction entries with
  | nil => rfl
  | cons e es ih =>
    rw [List.map_cons, List.filter_cons, ih]
    cases h : hidesId e with
    | true => simp [(isUsable_idOf_of_hidesId h).1, openIds, h]
    | false =>
      have hid := usableId?_of_open h
      cases hu : isUsable (idOf e) <;> simp [openIds, h, hid, hu]

/-- Besides the open ids there is one usable id for each entry that hides one. -/
theorem length_filterMap_usableId? (entries : List Json) :
    (entries.filterMap usableId?).length = (openIds entries).length + entries.countP hidesId := by
  induction entries with
  | nil => rfl
  | cons e es ih =>
    unfold openIds at ih ⊢
    cases h : hidesId e with
    | true =>
      obtain ⟨id, hid⟩ := Option.isSome_iff_exists.mp (isUsable_idOf_of_hidesId h).2
      simp [hid, h, ih, Nat.add_assoc]
    | false =>
      cases hid : usableId? e with
      | none => simp [hid, h, ih]
      | some id =>
        simp only [List.filterMap_cons, hid, List.length_cons, List.filter_cons, h, Bool.not_false,
          if_true, List.countP_cons, ih]
        simp
        omega

theorem openIds_eq_nil_iff :
    openIds entries = [] ↔ ∀ e ∈ entries, (usableId? e).isSome = true → hidesId e = true := by
  simp only [openIds, List.filterMap_eq_nil_iff, List.mem_filter, and_imp]
  refine forall₂_congr fun e _ => ?_
  cases hidesId e <;> cases usableId? e <;> simp

end Entries

/-! ## Imported items -/

/-- The item is the entity with the id, and says nothing else. -/
def IsEntity (id : Json) (item : SelectedItem) : Prop :=
  ∃ n, id.toInteger = .ok n ∧ item = { id := n }

/-- The items are the entities of the open ids. Those of all usable ids they are exactly when no
entry hides one. -/
structure Selects (entries : List Json) (items : List SelectedItem) : Prop where
  openIds : List.Forall₂ IsEntity (openIds entries) items
  complete_iff : List.Forall₂ IsEntity (entries.filterMap usableId?) items ↔
    ∀ e ∈ entries, hidesId e = false

theorem Selects.of_openIds {entries : List Json} {items : List SelectedItem}
    (h : List.Forall₂ IsEntity (Legacy.openIds entries) items) : Selects entries items where
  openIds := h
  complete_iff := by
    constructor
    · intro hall e he
      have hlength := length_filterMap_usableId? entries
      have hsame : (entries.filterMap usableId?).length = (Legacy.openIds entries).length :=
        hall.length_eq.trans h.length_eq.symm
      have hnone : entries.countP hidesId = 0 := by omega
      simpa using List.countP_eq_zero.mp hnone e he
    · intro hnone
      have hopen : entries.filter (!hidesId ·) = entries :=
        List.filter_eq_self.mpr fun e he => by simp [hnone e he]
      rwa [Legacy.openIds, hopen] at h

def entriesOf (data : Json) (name : String) : List Json :=
  match ((data.member? name).getD .null).elementsIfPresent with
  | .ok entries => entries
  | .error _ => []

section Filters

variable {room : Nat} {data selection : Json} {name : String} {items : List SelectedItem}

theorem entriesOf_eq {entries : List Json} (hselection : data.memberOrNull name = .ok selection)
    (hentries : selection.elementsIfPresent = .ok entries) : entriesOf data name = entries := by
  rw [entriesOf, Json.eq_of_memberOr hselection, hentries]

/-- What an id turns into: an item that matches it, or nothing when it is unusable. -/
inductive TurnsInto (R : Json → SelectedItem → Prop) (id : Json) : Option SelectedItem → Prop where
  | none (hid : isUsable id = false) : TurnsInto R id .none
  | some {item : SelectedItem} (hid : isUsable id = true) (hitem : R id item) :
      TurnsInto R id (.some item)

theorem forall₂_of_turnsInto {R : Json → SelectedItem → Prop} {entries : List Json}
    {found : List (Option SelectedItem)}
    (h : List.Forall₂ (fun e o => TurnsInto R (idOf e) o) entries found) :
    List.Forall₂ R (openIds entries) (found.filterMap id) := by
  rw [← filter_map_idOf]
  induction h with
  | nil => exact .nil
  | cons hhead _ ih =>
    cases hhead with
    | none hid => simpa [hid] using ih
    | some hid hitem => simpa [hid] using ⟨hitem, ih⟩

theorem turnsInto_of_item? {entry : Json} {o : Option SelectedItem}
    (h : item? room entry = .ok o) : TurnsInto IsEntity (idOf entry) o := by
  obtain ⟨blank, hblank, h⟩ := Returns.of_bind (m := Outcome) h
  rw [eq_of_isBlankId hblank] at h
  split at h
  case isTrue hid =>
    cases h
    exact .none (by simpa using hid)
  case isFalse =>
    obtain ⟨n, hn, h⟩ := Returns.of_bind (m := Outcome) h
    cases h
    exact .some (isUsable_of_toInteger hn) ⟨n, hn, rfl⟩

theorem turnsInto_of_branchItem? {entry : Json} {o : Option SelectedItem}
    (h : branchItem? room entry = .ok o) :
    TurnsInto (fun id item => id.toInteger = .ok item.id) (idOf entry) o := by
  obtain ⟨descendants, -, h⟩ := Returns.of_bind (m := Outcome) h
  split at h
  case isTrue hid =>
    cases h
    exact .none (by rw [eq_null_of_isNull hid]; rfl)
  case isFalse =>
    obtain ⟨n, hn, h⟩ := Returns.of_bind (m := Outcome) h
    cases h
    exact .some (isUsable_of_toInteger hn) hn

theorem selects_of_itemsOf (h : itemsOf room data name = .ok items) :
    Selects (entriesOf data name) items := by
  obtain ⟨selection, hselection, h⟩ := Returns.of_bind (m := Outcome) h
  obtain ⟨entries, hentries, h⟩ := Returns.of_bind (m := Outcome) h
  obtain ⟨found, hfound, h⟩ := Returns.of_bind (m := Outcome) h
  cases h
  rw [entriesOf_eq hselection hentries]
  have hall := (Outcome.mapM_eq_ok_iff.mp hfound).imp fun _ _ => turnsInto_of_item?
  exact .of_openIds (forall₂_of_turnsInto hall)

theorem forall₂_of_branchItems (hselection : data.memberOrNull name = .ok selection)
    (h : branchItems room selection = .ok items) :
    List.Forall₂ (fun id item => id.toInteger = .ok item.id) (openIds (entriesOf data name))
      items := by
  obtain ⟨entries, hentries, h⟩ := Returns.of_bind (m := Outcome) h
  obtain ⟨found, hfound, h⟩ := Returns.of_bind (m := Outcome) h
  cases h
  rw [entriesOf_eq hselection hentries]
  exact forall₂_of_turnsInto
    ((Outcome.mapM_eq_ok_iff.mp hfound).imp fun _ _ => turnsInto_of_branchItem?)

/-- Every usable id of some entries is hidden. -/
def AllHidden (entries : List Json) : Prop :=
  ∀ e ∈ entries, (usableId? e).isSome = true → hidesId e = true

theorem isEmpty_iff_allHidden {R : Json → SelectedItem → Prop} {entries : List Json}
    (h : List.Forall₂ R (openIds entries) items) : items.isEmpty = true ↔ AllHidden entries := by
  rw [AllHidden, ← openIds_eq_nil_iff, List.isEmpty_iff, ← List.length_eq_zero_iff,
    ← List.length_eq_zero_iff, h.length_eq]

theorem allHidden_append (es fs : List Json) :
    AllHidden (es ++ fs) ↔ AllHidden es ∧ AllHidden fs := by
  simp [AllHidden, or_imp, forall_and]

/-- A filter on users has the users, groups and branches of the payload, and keeps everyone exactly
when it has none of them. -/
structure UsersImported (data : Json) (f : UsersFilter) : Prop where
  users : Selects (entriesOf data "users") f.users
  groups : Selects (entriesOf data "groups") f.groups
  all_iff : f.all = true ↔ AllHidden
    (entriesOf data "users" ++ entriesOf data "groups" ++ entriesOf data "branches")

structure CoursesImported (data : Json) (f : CoursesFilter) : Prop where
  courses : Selects (entriesOf data "courses") f.courses
  all_iff : f.all = true ↔ AllHidden (entriesOf data "courses")

structure AssetsImported (data : Json) (f : AssetsFilter) : Prop where
  assets : Selects (entriesOf data "assets") f.assets
  channels : Selects (entriesOf data "channels") f.channels
  all_iff : f.all = true ↔ AllHidden (entriesOf data "assets" ++ entriesOf data "channels")

theorem usersImported {room : Room} {f f' : UsersFilter} (h : usersFilter room data f = .ok f') :
    UsersImported data f' := by
  obtain ⟨users, husers, h⟩ := Returns.of_bind (m := Outcome) h
  obtain ⟨groups, hgroups, h⟩ := Returns.of_bind (m := Outcome) h
  obtain ⟨selection, hselection, h⟩ := Returns.of_bind (m := Outcome) h
  obtain ⟨branches, hbranches, h⟩ := Returns.of_bind (m := Outcome) h
  cases h
  have husers := selects_of_itemsOf husers
  have hgroups := selects_of_itemsOf hgroups
  refine ⟨husers, hgroups, ?_⟩
  rw [allHidden_append, allHidden_append, ← isEmpty_iff_allHidden husers.openIds,
    ← isEmpty_iff_allHidden hgroups.openIds,
    ← isEmpty_iff_allHidden (forall₂_of_branchItems hselection hbranches)]
  simp

theorem coursesImported {room : Room} {f f' : CoursesFilter}
    (h : coursesFilter room data f = .ok f') : CoursesImported data f' := by
  obtain ⟨courses, hcourses, h⟩ := Returns.of_bind (m := Outcome) h
  cases h
  have hcourses := selects_of_itemsOf hcourses
  exact ⟨hcourses, isEmpty_iff_allHidden hcourses.openIds⟩

theorem assetsImported {room : Room} {f : AssetsFilter} (h : assetsFilter room data = .ok f) :
    AssetsImported data f := by
  obtain ⟨assets, hassets, h⟩ := Returns.of_bind (m := Outcome) h
  obtain ⟨channels, hchannels, h⟩ := Returns.of_bind (m := Outcome) h
  cases h
  have hassets := selects_of_itemsOf hassets
  have hchannels := selects_of_itemsOf hchannels
  refine ⟨hassets, hchannels, ?_⟩
  rw [allHidden_append, ← isEmpty_iff_allHidden hassets.openIds,
    ← isEmpty_iff_allHidden hchannels.openIds]
  simp

end Filters

/-! ## Imported reports -/

theorem of_changed {α : Type} {f : α → Outcome α} {P : α → Prop}
    (hf : ∀ a a', f a = .ok a' → P a') {o o' : Option α} (h : changed f o = .ok o') :
    o'.isSome = o.isSome ∧ ∀ a ∈ o', P a := by
  cases o with
  | none =>
    cases h
    exact ⟨rfl, nofun⟩
  | some a =>
    change (f a).map some = .ok o' at h
    cases ha : f a with
    | error e => rw [ha] at h; cases h
    | ok a' =>
      rw [ha] at h
      cases h
      refine ⟨rfl, fun b hb => ?_⟩
      cases hb
      exact hf a a' ha

section Reports

variable {r : Report} {s : Session} {stamp : Stamp} {t : ReportType} {platform : String}
  {rules : List VisibilityRule} {room : Room} {data : Json} {d d' : Definition}

theorem imported_of_withSelections (h : withSelections room data d = .ok d') :
    (d'.users.isSome = d.users.isSome ∧ ∀ f ∈ d'.users, UsersImported data f) ∧
    (d'.courses.isSome = d.courses.isSome ∧ ∀ f ∈ d'.courses, CoursesImported data f) ∧
    (d'.assets.isSome = d.assets.isSome ∧ ∀ f ∈ d'.assets, AssetsImported data f) := by
  obtain ⟨users, husers, h⟩ := Returns.of_bind (m := Outcome) h
  obtain ⟨courses, hcourses, h⟩ := Returns.of_bind (m := Outcome) h
  obtain ⟨assets, hassets, h⟩ := Returns.of_bind (m := Outcome) h
  cases h
  exact ⟨of_changed (fun _ _ => usersImported) husers,
    of_changed (fun _ _ => coursesImported) hcourses,
    of_changed (fun _ _ => assetsImported) hassets⟩

/-- An import keeps the usable ids of the selections that its type has, in order, exactly as long as
no entry hides one, and a filter keeps everything exactly when all usable ids are hidden. -/
theorem parse_selects_ids_iff (h : parse s stamp t r platform rules room = .ok d) :
    ∃ data, payload r.data room.reading = .ok data ∧
      ((d.users.isSome = true ↔ t ≠ .assetStatistics) ∧ ∀ f ∈ d.users, UsersImported data f) ∧
      ((d.courses.isSome = true ↔ t ≠ .assetStatistics) ∧
        ∀ f ∈ d.courses, CoursesImported data f) ∧
      ((d.assets.isSome = true ↔ t = .assetStatistics) ∧
        ∀ f ∈ d.assets, AssetsImported data f) := by
  obtain ⟨map, data, title, description, author, home, timezone, headed, hmap, hdata, hheaded,
    h⟩ := steps_of_parse h
  obtain ⟨filters, d₁, d₂, d₃, d₄, -, hselections, hdates, hconditions, hstatus, hfields⟩ :=
    steps_of_withFilters h
  obtain ⟨⟨husers, hu⟩, ⟨hcourses, hc⟩, hassets, ha⟩ := imported_of_withSelections hselections
  obtain ⟨_, _, _, _, _, _, rfl⟩ := eq_of_withHead hheaded
  obtain ⟨_, _, _, _, rfl⟩ := eq_of_withDates hdates
  obtain ⟨_, rfl⟩ := eq_of_withConditions hconditions
  obtain ⟨_, rfl⟩ := eq_of_withStatus hstatus
  obtain ⟨_, _, rfl⟩ := eq_of_withFields hfields
  refine ⟨data, hdata, ⟨?_, hu⟩, ⟨?_, hc⟩, ?_, ha⟩
  · rw [husers]
    cases t <;> simp [Definition.new, Definition.withDefaultFilters]
  · rw [hcourses]
    cases t with
    | planStatistics => cases hmap
    | _ => simp [Definition.new, Definition.withDefaultFilters]
  · rw [hassets]
    cases t <;> simp [Definition.new, Definition.withDefaultFilters]

end Reports

def onUsers (entries : List Json) : Report :=
  { idFilter := "5", typeId := "1", author := ""
    data := .members [("filters", .obj [("a", .int 1)]), ("users", .arr entries)] }

def someUsers : List Json := [.int 3, .null, .obj [("key", .str "4")], .str " ",
  .obj [("id", .null), ("name", .int 7)], .obj [("id", .int 5), ("key", .int 6)]]

theorem parse_selects_ids_iff_someUsers :
    ∃ d f, parse { idUser := 1 } ⟨"", ""⟩ .usersCourses (onUsers someUsers) "" [] = .ok d ∧
      d.users = some f ∧ List.Forall₂ IsEntity (someUsers.filterMap usableId?) f.users ∧
      f.users = [{ id := 3 }, { id := 4 }, { id := 5 }] ∧ f.all = false := by
  obtain ⟨d, hd⟩ : ∃ d, parse { idUser := 1 } ⟨"", ""⟩ .usersCourses (onUsers someUsers) "" [] =
      .ok d := ⟨_, rfl⟩
  obtain ⟨data, hdata, ⟨hsome, husers⟩, -⟩ := parse_selects_ids_iff hd
  obtain ⟨f, hf⟩ := Option.isSome_iff_exists.mp (hsome.mpr (by decide))
  have himported := husers f hf
  cases hdata
  have hnone : ∀ e ∈ someUsers, hidesId e = false := by decide
  have hall := himported.users.complete_iff.mpr hnone
  cases hd
  cases hf
  exact ⟨_, _, rfl, rfl, hall, rfl, rfl⟩

/-- A null in front of the id of the only user loses the user, and the report is on everyone. -/
theorem parse_onUsers_hidden :
    ∃ d f, parse { idUser := 1 } ⟨"", ""⟩ .usersCourses
        (onUsers [.obj [("id", .null), ("key", .int 5)]]) "" [] = .ok d ∧ d.users = some f ∧
      (∃ id, usableId? (.obj [("id", .null), ("key", .int 5)]) = some id ∧
        id.toInteger = .ok 5) ∧
      f.users = [] ∧ f.all = true :=
  ⟨_, _, rfl, rfl, ⟨_, rfl, rfl⟩, rfl, rfl⟩

end Legacy
end LearningReports
