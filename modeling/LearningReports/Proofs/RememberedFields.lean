import LearningReports.CustomFields.Remembered
import LearningReports.Proofs.Accounting
import LearningReports.Proofs.Resolvable

/-! # Remembered fields

A directory that remembers custom fields answers as one that is asked again each time, as long as
what it tells does not change. So a selection is resolved alike whatever was asked for before, and
exactly to the custom fields that the directory knows. -/
namespace LearningReports

/-- Whatever the directory tells of an entity is what there is to know of it. It may fail. -/
def Directory.TellsOnly (dir : Directory Outcome) (known : Entity → List FieldMetadata) : Prop :=
  ∀ e fields, dir.customFields e = .ok fields → fields = known e

def Directory.TellsOf (dir : Directory Outcome) (entities : List Entity) : Prop :=
  ∀ e ∈ entities, ∃ fields, dir.customFields e = .ok fields

/-- The directory with the answers that are remembered. -/
def Directory.recalling (dir : Directory Outcome) (memory : FieldMemory) : Directory Outcome :=
  { dir with customFields := fun e =>
      match memory.known? e with
      | some fields => .ok fields
      | none => dir.customFields e }

/-- The outcome of an action on a memory, and the memory behind it. -/
def Remembering.runOn {α : Type} (a : Remembering α) (memory : FieldMemory) :
    Outcome α × FieldMemory :=
  StateT.run (ExceptT.run a) memory

/-! ## Actions on a memory -/

namespace Remembering

variable {α β : Type} {a : Remembering α} {memory : FieldMemory}

@[simp] theorem runOn_pure (x : α) : (pure x : Remembering α).runOn memory = (.ok x, memory) := rfl

@[simp] theorem runOn_lift (o : Outcome α) :
    (o.lift : Remembering α).runOn memory = (o, memory) :=
  LearningReports.runOn_lift o

@[simp] theorem runOn_bind (f : α → Remembering β) : (a >>= f).runOn memory =
    match a.runOn memory with
    | (.ok x, next) => (f x).runOn next
    | (.error e, next) => (.error e, next) := by
  cases h : a.runOn memory with
  | mk outcome next =>
    cases outcome with
    | ok x => exact runOn_bind_of_ok h
    | error e => exact runOn_bind_of_error h

end Remembering

/-! ## Memories -/

variable {dir dir' : Directory Outcome} {memory next last : FieldMemory}
  {known : Entity → List FieldMetadata}

namespace FieldMemory

theorem mem_of_known? {e : Entity} {fields : List FieldMetadata}
    (h : memory.known? e = some fields) : (e, fields) ∈ memory := by
  obtain ⟨p, hp, rfl⟩ := Option.map_eq_some_iff.mp h
  have he : p.1 = e := by simpa using List.find?_some hp
  exact he ▸ List.mem_of_find?_eq_some hp

theorem known?_append_singleton {e e' : Entity} {fields : List FieldMetadata} :
    FieldMemory.known? (memory ++ [(e, fields)]) e' =
      (memory.known? e').or (if e = e' then some fields else none) := by
  unfold known?
  rw [List.find?_append]
  cases memory.find? (·.1 == e') with
  | some p => rfl
  | none => by_cases h : e = e' <;> simp [h]

/-- What is remembered of an entity is what there is to know of it. -/
def Holds (memory : FieldMemory) (known : Entity → List FieldMetadata) : Prop :=
  ∀ p ∈ memory, p.2 = known p.1

/-- The memory has grown by answers of the directory, and recalling them makes no difference. -/
structure Learns (dir : Directory Outcome) (memory next : FieldMemory) : Prop where
  told : ∀ p ∈ next, p ∈ memory ∨ dir.customFields p.1 = .ok p.2
  recalls : (dir.recalling next).customFields = (dir.recalling memory).customFields

theorem Learns.refl : Learns dir memory memory := ⟨fun _ hp => .inl hp, rfl⟩

theorem Learns.trans (h : Learns dir memory next) (h' : Learns dir next last) :
    Learns dir memory last where
  told p hp := (h'.told p hp).elim (h.told p) .inr
  recalls := h'.recalls.trans h.recalls

theorem Learns.holds (h : Learns dir memory next) (hdir : dir.TellsOnly known)
    (hmemory : memory.Holds known) : next.Holds known :=
  fun p hp => (h.told p hp).elim (hmemory p) (hdir p.1 p.2)

theorem learns_append_singleton {e : Entity} {fields : List FieldMetadata}
    (h : dir.customFields e = .ok fields) : Learns dir memory (memory ++ [(e, fields)]) where
  told p hp := (List.mem_append.mp hp).imp_right fun hp => by
    cases List.mem_singleton.mp hp
    exact h
  recalls := by
    funext e'
    simp only [Directory.recalling, known?_append_singleton]
    cases memory.known? e' with
    | some fields' => rfl
    | none =>
      by_cases he : e = e'
      · subst he
        simp [h]
      · simp [he]

end FieldMemory

theorem Directory.TellsOnly.recalling (hdir : dir.TellsOnly known)
    (hmemory : memory.Holds known) : (dir.recalling memory).TellsOnly known := by
  intro e fields h
  unfold Directory.recalling at h
  dsimp only at h
  cases hrecalled : memory.known? e with
  | some fields' =>
    rw [hrecalled] at h
    cases h
    exact hmemory _ (FieldMemory.mem_of_known? hrecalled)
  | none =>
    rw [hrecalled] at h
    exact hdir e fields h

theorem Directory.TellsOnly.recalling_eq_ok (hdir : dir.TellsOnly known)
    (hmemory : memory.Holds known) {e : Entity} {fields : List FieldMetadata}
    (h : dir.customFields e = .ok fields) :
    (dir.recalling memory).customFields e = .ok fields := by
  unfold Directory.recalling
  dsimp only
  cases hrecalled : memory.known? e with
  | some fields' =>
    have hsame : fields' = known e := hmemory _ (FieldMemory.mem_of_known? hrecalled)
    rw [hsame, hdir e fields h]
  | none => exact h

theorem Remembering.runOn_rememberedFields (dir : Directory Outcome) (e : Entity)
    (memory : FieldMemory) :
    ∃ next, (dir.rememberedFields e).runOn memory =
      ((dir.recalling memory).customFields e, next) ∧ memory.Learns dir next := by
  have hrun : (dir.rememberedFields e).runOn memory = (match memory.known? e with
      | some fields => (pure fields : Remembering _)
      | none => do
        let fields ← Remembering.ofOutcome (dir.customFields e)
        modify fun memory => memory ++ [(e, fields)]
        return fields).runOn memory := rfl
  rw [hrun, Directory.recalling]
  dsimp only
  cases memory.known? e with
  | some fields => exact ⟨memory, rfl, .refl⟩
  | none =>
    cases htold : dir.customFields e with
    | error f => exact ⟨memory, rfl, .refl⟩
    | ok fields => exact ⟨_, rfl, FieldMemory.learns_append_singleton htold⟩

namespace CustomFields

variable {w : Warehouse} {fields : List CustomField} {r : Resolution}

/-! ## Resolutions on a memory -/

/-- A resolution on a memory is the one with what is remembered. -/
theorem runOn_resolveEntities (dir : Directory Outcome) (w : Warehouse) (fields : List CustomField)
    (entities : List Entity) (r : Resolution) (memory : FieldMemory) :
    ∃ next, (resolveEntities dir.remembering w fields entities r).runOn memory =
      (resolveEntities (dir.recalling memory) w fields entities r, next) ∧
        memory.Learns dir next := by
  induction entities generalizing r memory with
  | nil => exact ⟨memory, rfl, .refl⟩
  | cons e es ih =>
    unfold resolveEntities
    dsimp only
    split
    · exact ih r memory
    · obtain ⟨next, hrun, hlearns⟩ := Remembering.runOn_rememberedFields dir e memory
      have hremembering : dir.remembering.customFields e = dir.rememberedFields e := rfl
      rw [Remembering.runOn_bind, hremembering, hrun]
      cases (dir.recalling memory).customFields e with
      | error f => exact ⟨next, rfl, hlearns⟩
      | ok list =>
        have hlist (f : List FieldMetadata → Outcome Resolution) :
            (Except.ok list >>= f) = f list := rfl
        simp only [hlist, Remembering.runOn_bind, Remembering.runOn_lift]
        cases hnext : resolveEntity w e (fields.filter (·.entity == e)) list r with
        | error f => exact ⟨next, rfl, hlearns⟩
        | ok r' =>
          obtain ⟨last, hlast, hmore⟩ := ih r' next
          rw [resolveEntities_congr fun e' _ => congrFun hlearns.recalls e'] at hlast
          exact ⟨last, hlast, hlearns.trans hmore⟩

theorem runOn_resolve (dir : Directory Outcome) (w : Warehouse) (texts : List String)
    (entities : List Entity) (labels : Labels) (memory : FieldMemory) :
    ∃ next, (resolve dir.remembering w texts entities labels).runOn memory =
      (resolve (dir.recalling memory) w texts entities labels, next) ∧ memory.Learns dir next := by
  unfold resolve
  rw [Remembering.runOn_bind, Remembering.runOn_lift, Outcome.lift_self]
  cases selected texts with
  | error f => exact ⟨memory, rfl, .refl⟩
  | ok fields => exact runOn_resolveEntities ..

/-! ## Directories that tell more -/

variable {texts : List String} {entities done : List Entity} {labels : Labels}
  {last : Resolution}

/-- What is resolved stays so when a directory tells the same and possibly more. -/
theorem resolveEntities_of_tells_more (h : ∀ e ∈ entities, ∀ list,
      dir.customFields e = .ok list → dir'.customFields e = .ok list)
    (hlast : resolveEntities dir w fields entities r = .ok last) :
    resolveEntities dir' w fields entities r = .ok last := by
  induction entities generalizing r with
  | nil => exact hlast
  | cons e es ih =>
    have hrest := fun e' he' => h e' (List.mem_cons_of_mem e he')
    rw [resolveEntities_cons_eq_ok_iff] at hlast ⊢
    rcases hlast with ⟨hnone, hlast⟩ | ⟨hsome, list, next, hlist, hnext, hlast⟩
    · exact .inl ⟨hnone, ih hrest hlast⟩
    · exact .inr ⟨hsome, list, next, h e (.head _) list hlist, hnext, ih hrest hlast⟩

theorem resolve_of_tells_more (h : ∀ e ∈ entities, ∀ list,
      dir.customFields e = .ok list → dir'.customFields e = .ok list)
    (hlast : resolve dir w texts entities labels = .ok last) :
    resolve dir' w texts entities labels = .ok last := by
  obtain ⟨fields, hfields, hlast⟩ := Outcome.bind_eq_ok_iff.mp hlast
  exact Outcome.bind_eq_ok_iff.mpr ⟨fields, hfields, resolveEntities_of_tells_more h hlast⟩

/-! ## Exact resolutions -/

theorem exact_of_tellsOnly (hdir : dir.TellsOnly known) (hr : Exact w fields known done r)
    (hlast : resolveEntities dir w fields entities r = .ok last) :
    Exact w fields known (entities.reverse ++ done) last := by
  induction entities generalizing done r with
  | nil =>
    cases hlast
    exact hr
  | cons e es ih =>
    rw [List.reverse_cons, List.append_assoc, List.singleton_append]
    rcases resolveEntities_cons_eq_ok_iff.mp hlast with
      ⟨hnone, hlast⟩ | ⟨-, list, next, hlist, hnext, hlast⟩
    · exact ih (hr.skip hnone) hlast
    · rw [hdir e list hlist] at hnext
      exact ih (hr.resolveEntity hnext) hlast

/-- The selected custom fields of the given entities that are known are resolved, and no others.
Each has the title that its label says and the type of the last entry for its number. Labels under
other keys than those of custom fields stay as they were. -/
structure ResolvesExactly (known : Entity → List FieldMetadata) (w : Warehouse)
    (texts : List String) (entities : List Entity) (labels : Labels) (r : Resolution) : Prop where
  resolved : ∀ key, (∃ f, lookup? key r.fields = some f) ↔ ∃ text ∈ texts, ∃ c,
    CustomField.parse text = .ok (some c) ∧ c.entity ∈ entities ∧ c.key = key ∧
      Knows (known c.entity) c
  resolvedAs : ∀ c f, lookup? c.key r.fields = some f →
    ∃ entry, entryFor? (known c.entity) c = some entry ∧ ResolvedAs w r.labels c entry f
  labels : ∀ key, (∀ e n, key ≠ CustomField.keyOf e n) → lookup? key r.labels = lookup? key labels

theorem resolvesExactly_of_tellsOnly (hdir : dir.TellsOnly known)
    (h : resolve dir w texts entities labels = .ok r) :
    ResolvesExactly known w texts entities labels r := by
  obtain ⟨fields, hfields, hr⟩ := Outcome.bind_eq_ok_iff.mp h
  rw [Outcome.lift_self, selected_eq_ok_iff] at hfields
  obtain ⟨-, rfl⟩ := hfields
  have hexact := exact_of_tellsOnly hdir (.start labels) hr
  constructor
  · intro key
    constructor
    · rintro ⟨f, hf⟩
      obtain ⟨c, hc, hentity, hkey, hknows⟩ := hexact.only key f hf
      obtain ⟨text, htext, hparse⟩ := mem_filterMap_parsed?.mp hc
      exact ⟨text, htext, c, hparse, by simpa using hentity, hkey, hknows⟩
    · rintro ⟨text, htext, c, hparse, hentity, rfl, hknows⟩
      obtain ⟨entry, hentry⟩ := exists_entryFor?_iff.mpr hknows
      obtain ⟨f, hf, -⟩ := hexact.resolved c (mem_filterMap_parsed?.mpr ⟨text, htext, hparse⟩)
        (by simpa using hentity) entry hentry
      exact ⟨f, hf⟩
  · intro c f hf
    obtain ⟨c', -, -, hkey, hentry⟩ := hexact.lookup?_eq_some_iff.mp hf
    exact CustomField.key_injective hkey ▸ hentry
  · intro key hkey
    have hreturn : MonadAttach.CanReturn
        (resolveEntities dir w (texts.filterMap parsed?) entities { labels := labels }) r := hr
    exact lookup?_labels_resolveEntities hkey entities hreturn

/-! ## Calls one after another -/

/-- What can be asked about custom fields. -/
inductive FieldCall where
  | list (e : Entity)
  | resolve (texts : List String) (entities : List Entity) (labels : Labels)

/-- A call, with what the directory could answer at its time, and the shared inspector: a warehouse
here is what the inspector answers, with all that it remembers from before. -/
structure PastCall where
  dir : Directory Outcome
  warehouse : Warehouse
  call : FieldCall

/-- The memory behind a call, which may have failed. -/
def PastCall.leave (memory : FieldMemory) (p : PastCall) : FieldMemory :=
  match p.call with
  | .list e => ((available p.dir.remembering e).runOn memory).2
  | .resolve texts entities labels =>
    ((CustomFields.resolve p.dir.remembering p.warehouse texts entities labels).runOn memory).2

/-- The memory behind some calls. -/
def memoryAfter (history : List PastCall) : FieldMemory := history.foldl PastCall.leave []

/-- The outcome of a resolution after some calls. The warehouse is again what the inspector answers
now; as long as the tables stay, this does not depend on the calls (`Inspector.Reflects.answers`).
-/
def resolveAfter (history : List PastCall) (dir : Directory Outcome) (w : Warehouse)
    (texts : List String) (entities : List Entity) (labels : Labels) : Outcome Resolution :=
  ((resolve dir.remembering w texts entities labels).runOn (memoryAfter history)).1

theorem PastCall.learns (p : PastCall) (memory : FieldMemory) :
    memory.Learns p.dir (p.leave memory) := by
  obtain ⟨dir, w, call⟩ := p
  cases call with
  | list e =>
    obtain ⟨next, hrun, hlearns⟩ := Remembering.runOn_rememberedFields dir e memory
    have hlist : PastCall.leave memory ⟨dir, w, .list e⟩ = next := by
      change (Remembering.runOn (dir.rememberedFields e >>= fun list =>
        pure (list.map (entryOf e))) memory).2 = next
      rw [Remembering.runOn_bind, hrun]
      cases (dir.recalling memory).customFields e <;> rfl
    exact hlist.symm ▸ hlearns
  | resolve texts entities labels =>
    obtain ⟨next, hrun, hlearns⟩ := runOn_resolve dir w texts entities labels memory
    have hresolve : PastCall.leave memory ⟨dir, w, .resolve texts entities labels⟩ = next :=
      congrArg Prod.snd hrun
    exact hresolve.symm ▸ hlearns

variable {history : List PastCall}

/-- Whatever was asked for, only what there is to know is remembered. -/
theorem holds_memoryAfter (hpast : ∀ p ∈ history, p.dir.TellsOnly known) :
    (memoryAfter history).Holds known := by
  have hfold (memory : FieldMemory) (hmemory : memory.Holds known) :
      (history.foldl PastCall.leave memory).Holds known := by
    induction history generalizing memory with
    | nil => exact hmemory
    | cons p ps ih =>
      exact ih (fun p' hp' => hpast p' (.tail _ hp')) _
        ((p.learns memory).holds (hpast p (.head _)) hmemory)
  exact hfold [] fun p hp => absurd hp List.not_mem_nil

theorem resolveAfter_eq : resolveAfter history dir w texts entities labels =
    resolve (dir.recalling (memoryAfter history)) w texts entities labels := by
  obtain ⟨next, hrun, -⟩ := runOn_resolve dir w texts entities labels (memoryAfter history)
  rw [resolveAfter, hrun]

/-- A resolution after some calls and one without any are the same, but for answers that only the
memory can give. -/
structure LikeFresh (history : List PastCall) (known : Entity → List FieldMetadata)
    (dir : Directory Outcome) (w : Warehouse) (texts : List String) (entities : List Entity)
    (labels : Labels) : Prop where
  told : dir.TellsOf entities → resolveAfter history dir w texts entities labels =
    resolveAfter [] dir w texts entities labels
  fresh : ∀ r, resolveAfter [] dir w texts entities labels = .ok r →
    resolveAfter history dir w texts entities labels = .ok r
  remembered : ∀ r, resolveAfter history dir w texts entities labels = .ok r →
    ∀ dir' : Directory Outcome, dir'.TellsOnly known → dir'.TellsOf entities →
      resolveAfter [] dir' w texts entities labels = .ok r

theorem likeFresh (hpast : ∀ p ∈ history, p.dir.TellsOnly known) (hdir : dir.TellsOnly known) :
    LikeFresh history known dir w texts entities labels := by
  have hholds := holds_memoryAfter hpast
  have hrecalling := hdir.recalling hholds
  constructor
  · intro htold
    rw [resolveAfter_eq, resolveAfter_eq]
    refine resolve_congr fun e he => ?_
    obtain ⟨list, hlist⟩ := htold e he
    rw [hdir.recalling_eq_ok hholds hlist]
    exact hlist.symm
  · intro r hr
    rw [resolveAfter_eq] at hr ⊢
    exact resolve_of_tells_more (fun e _ list hlist => hdir.recalling_eq_ok hholds hlist) hr
  · intro r hr dir' hdir' htold
    rw [resolveAfter_eq] at hr ⊢
    refine resolve_of_tells_more (fun e he list hlist => ?_) hr
    obtain ⟨list', hlist'⟩ := htold e he
    rw [hrecalling e list hlist, ← hdir' e list' hlist']
    exact hlist'

/-- Custom fields are resolved exactly, whatever was asked for before, as long as what the directory
tells does not change. -/
theorem resolveAfter_exact (hpast : ∀ p ∈ history, p.dir.TellsOnly known)
    (hdir : dir.TellsOnly known) (w : Warehouse) (texts : List String) (entities : List Entity)
    (labels : Labels) :
    ((∃ r, resolveAfter history dir w texts entities labels = .ok r) ↔
      (∀ text ∈ texts, ∃ c, CustomField.parse text = .ok c) ∧
        ∀ text ∈ texts, ∀ c, CustomField.parse text = .ok (some c) → c.entity ∈ entities →
          Answerable (dir.recalling (memoryAfter history)) w labels c) ∧
    (∀ r, resolveAfter history dir w texts entities labels = .ok r →
      ResolvesExactly known w texts entities labels r) ∧
    LikeFresh history known dir w texts entities labels := by
  refine ⟨?_, fun r hr => ?_, likeFresh hpast hdir⟩
  · rw [resolveAfter_eq]
    exact resolve_returns_iff
  · rw [resolveAfter_eq] at hr
    exact resolvesExactly_of_tellsOnly (hdir.recalling (holds_memoryAfter hpast)) hr

def unreachable : Directory Outcome :=
  { knowing with customFields := fun _ => .error (.directory .server "" none) }

/-- Two calls that failed and one that did not. -/
def threeCalls : List PastCall :=
  [⟨unreachable, .complete, .list .user⟩,
    ⟨knowing, .complete, .resolve ["user_extrafield_3"] [.user] []⟩,
    ⟨unreachable, .complete, .resolve ["course_extrafield_1"] [.course] []⟩]

theorem tellsOnly_knowing : knowing.TellsOnly knownOffice := by
  intro e fields h
  cases e <;> exact (Except.ok.inj h).symm

theorem tellsOnly_unreachable : unreachable.TellsOnly knownOffice := fun _ _ h => nomatch h

/-- The field is resolved, under another spelling, though the directory cannot be reached. -/
theorem resolveAfter_exact_threeCalls : (∀ p ∈ threeCalls, p.dir.TellsOnly knownOffice) ∧
    unreachable.TellsOnly knownOffice ∧ ∃ r,
      resolveAfter threeCalls unreachable .complete ["user_extrafield_03"] [.user, .user] [] =
        .ok r ∧
      ResolvesExactly knownOffice .complete ["user_extrafield_03"] [.user, .user] [] r ∧
      r.fields.map Prod.fst = ["user_extrafield_3"] ∧
      LikeFresh threeCalls knownOffice unreachable .complete ["user_extrafield_03"]
        [.user, .user] [] := by
  have hpast : ∀ p ∈ threeCalls, p.dir.TellsOnly knownOffice := by
    intro p hp
    simp only [threeCalls, List.mem_cons, List.not_mem_nil, or_false] at hp
    rcases hp with rfl | rfl | rfl
    · exact tellsOnly_unreachable
    · exact tellsOnly_knowing
    · exact tellsOnly_unreachable
  obtain ⟨r, hr⟩ : ∃ r, resolveAfter threeCalls unreachable .complete ["user_extrafield_03"]
      [.user, .user] [] = .ok r := ⟨_, rfl⟩
  obtain ⟨-, hexact, hlike⟩ := resolveAfter_exact hpast tellsOnly_unreachable .complete
    ["user_extrafield_03"] [.user, .user] []
  refine ⟨hpast, tellsOnly_unreachable, r, hr, hexact r hr, ?_, hlike⟩
  cases hr
  rfl

end CustomFields

end LearningReports
