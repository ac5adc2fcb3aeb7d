import LearningReports.Proofs.Occurs
import LearningReports.Proofs.Tokens
import LearningReports.Text.LowerCase

/-! # Texts that are cut alike

Two texts are alike when, behind any other text, they are cut into the same tokens but for what
stands between quotes. Texts without quotes are like themselves, quoted texts are like each other,
and what is put together from texts that are alike is alike. -/
namespace LearningReports.Text

open Scan

/-- Behind any part of a statement the texts are cut into the same tokens but for what stands
between quotes, and both leave the statement nowhere. -/
def Alike (s t : String) : Prop :=
  ∀ scan : Scan, scan.Settled →
    (scan.run s.toList).Settled ∧ (scan.run s.toList).shape = (scan.run t.toList).shape

namespace Alike

variable {s s' t t' u : String}

theorem symm (h : Alike s t) : Alike t s := fun scan hscan =>
  have ⟨hs, hshape⟩ := h scan hscan
  ⟨settled_of_shape hs hshape, hshape.symm⟩

theorem trans (hs : Alike s t) (ht : Alike t u) : Alike s u := fun scan hscan =>
  ⟨(hs scan hscan).1, (hs scan hscan).2.trans (ht scan hscan).2⟩

theorem append (hs : Alike s s') (ht : Alike t t') : Alike (s ++ t) (s' ++ t') := by
  intro scan hscan
  obtain ⟨hsettled, hshape⟩ := hs scan hscan
  obtain ⟨hlast, htail⟩ := ht (scan.run s.toList) hsettled
  have hhead : ((scan.run s.toList).run t'.toList).shape =
      ((scan.run s'.toList).run t'.toList).shape := by
    rw [shape_run, hshape, ← shape_run]
  simp only [String.toList_append, run_append]
  exact ⟨hlast, htail.trans hhead⟩

theorem empty : Alike "" "" := fun _ hscan => ⟨hscan, rfl⟩

/-- Parts that are alike one by one make alike texts, with separators between them. -/
theorem intercalate {α : Type} {f g : α → String} {sep : String} (hsep : Alike sep sep)
    (as : List α) (h : ∀ a ∈ as, Alike (f a) (g a)) :
    Alike (sep.intercalate (as.map f)) (sep.intercalate (as.map g)) := by
  induction as with
  | nil => exact empty
  | cons a as ih =>
    have hhead : Alike (f a) (g a) := h a List.mem_cons_self
    cases as with
    | nil => simpa using hhead
    | cons b bs =>
      simp only [List.map_cons, String.intercalate_cons_cons]
      exact (hhead.append hsep).append (ih fun c hc => h c (List.mem_cons_of_mem _ hc))

theorem sameStructure (h : Alike s t) : SameStructure s t := by
  unfold SameStructure tokens
  rw [map_shape_finish, map_shape_finish, (h {} settled_start).2]

theorem oneStatement (h : Alike s t) : OneStatement s := (h {} settled_start).1.finish

end Alike

/-! ## Closed texts -/

def closes : Option Mark → List Char → Bool
  | none, [] => true
  | some _, [] => false
  | none, c :: cs =>
    match Mark.ofChar? c with
    | some m => closes (some m) cs
    | none => c != ';' && closes none cs
  | some m, c :: cs => if c = m.char then closes none cs else closes (some m) cs

/-- The pass is inside quotes and has left the statement nowhere. -/
def Scan.Inside (m : Mark) (s : Scan) : Prop :=
  (∃ content, s.mode = .inside m content) ∧ ∀ t ∈ s.done, t.isInner = true

theorem Mark.ofChar?_char (m : Mark) : Mark.ofChar? m.char = some m := by
  cases m with
  | _ => rfl

theorem Mark.char_of_ofChar? {c : Char} {m : Mark} (h : Mark.ofChar? c = some m) :
    c = m.char := by
  unfold Mark.ofChar? at h
  split at h
  · next hc =>
    cases h
    exact hc
  · split at h
    · next hc =>
      cases h
      exact hc
    · cases h

theorem inner_append_wordTokens {done : List Token} (h : ∀ t ∈ done, t.isInner = true)
    (word : List Char) : ∀ t ∈ done ++ wordTokens word, t.isInner = true := by
  intro t ht
  rcases List.mem_append.mp ht with ht | ht
  · exact h t ht
  · exact isInner_of_mem_wordTokens ht

theorem inner_append_singleton {done : List Token} {token : Token}
    (h : ∀ t ∈ done, t.isInner = true) (htoken : token.isInner = true) :
    ∀ t ∈ done ++ [token], t.isInner = true := by
  intro t ht
  rcases List.mem_append.mp ht with ht | ht
  · exact h t ht
  · cases List.mem_singleton.mp ht
    exact htoken

theorem settled_stepPlain {done : List Token} {word : List Char} {c : Char}
    (hdone : ∀ t ∈ done, t.isInner = true) (hmark : Mark.ofChar? c = none) (hc : c ≠ ';') :
    (stepPlain done word c).Settled := by
  have hwords := inner_append_wordTokens hdone word
  unfold stepPlain
  rw [hmark]
  dsimp only
  split
  · exact settled_plain hdone
  · split
    · exact settled_plain hwords
    · exact settled_plain (inner_append_singleton hwords (by simpa [Token.isInner] using hc))

theorem Scan.Settled.step {s : Scan} {c : Char} (hs : s.Settled) (hmark : Mark.ofChar? c = none)
    (hc : c ≠ ';') : (s.step c).Settled := by
  obtain ⟨done, mode⟩ := s
  cases mode with
  | plain word => exact settled_stepPlain hs.inner hmark hc
  | inside m content => exact absurd rfl (hs.outside m content)
  | closing m content =>
    have hne : c ≠ m.char := by
      rintro rfl
      rw [m.ofChar?_char] at hmark
      cases hmark
    rw [Scan.step]
    dsimp only
    rw [if_neg hne]
    exact settled_stepPlain (inner_append_singleton hs.inner rfl) hmark hc

/-- A mark opens a token, or goes on with the one that it seemed to close. -/
theorem Scan.Settled.step_mark {s : Scan} (hs : s.Settled) (m : Mark) :
    (s.step m.char).Inside m := by
  have hopen (done : List Token) (word : List Char) (hdone : ∀ t ∈ done, t.isInner = true) :
      (stepPlain done word m.char).Inside m := by
    rw [stepPlain, m.ofChar?_char]
    exact ⟨⟨[], rfl⟩, inner_append_wordTokens hdone word⟩
  obtain ⟨done, mode⟩ := s
  cases mode with
  | plain word => exact hopen done word hs.inner
  | inside m' content => exact absurd rfl (hs.outside m' content)
  | closing m' content =>
    rw [Scan.step]
    dsimp only
    split
    · next heq =>
      have hm : m' = m := by
        cases m <;> cases m' <;> first | rfl | cases heq
      subst hm
      exact ⟨⟨_, rfl⟩, hs.inner⟩
    · exact hopen _ [] (inner_append_singleton hs.inner rfl)

theorem settled_run_of_closes (cs : List Char) :
    (∀ s : Scan, s.Settled → closes none cs = true → (s.run cs).Settled) ∧
      ∀ (m : Mark) (s : Scan), s.Inside m → closes (some m) cs = true → (s.run cs).Settled := by
  induction cs with
  | nil => exact ⟨fun s hs _ => hs, fun m s _ h => by cases h⟩
  | cons c cs ih =>
    obtain ⟨ihout, ihin⟩ := ih
    constructor
    · intro s hs h
      rw [closes] at h
      cases hmark : Mark.ofChar? c with
      | some m =>
        rw [hmark] at h
        cases Mark.char_of_ofChar? hmark
        exact ihin m _ (hs.step_mark m) h
      | none =>
        rw [hmark] at h
        obtain ⟨hc, h⟩ := (Bool.and_eq_true _ _).mp h
        exact ihout _ (hs.step hmark (by simpa using hc)) h
    · rintro m ⟨done, mode⟩ ⟨⟨content, rfl⟩, hdone⟩ h
      rw [closes] at h
      change (Scan.run (Scan.step _ c) cs).Settled
      rw [Scan.step]
      dsimp only
      split at h
      · next hc =>
        rw [if_pos hc]
        exact ihout _ (settled_closing hdone) h
      · next hc =>
        rw [if_neg hc]
        exact ihin m _ ⟨⟨_, rfl⟩, hdone⟩ h

theorem alike_closed {s : String} (h : closes none s.toList = true) : Alike s s :=
  fun scan hscan => ⟨(settled_run_of_closes s.toList).1 scan hscan h, rfl⟩

theorem Alike.append_closed {s t w : String} (h : Alike s t) (hw : closes none w.toList = true) :
    Alike (s ++ w) (t ++ w) :=
  h.append (alike_closed hw)

theorem Alike.closed_append {s t w : String} (hw : closes none w.toList = true) (h : Alike s t) :
    Alike (w ++ s) (w ++ t) :=
  (alike_closed hw).append h

/-! ## Plain texts -/

def isPlainCode (n : Nat) : Bool := n != '\''.toNat && n != '"'.toNat && n != ';'.toNat

def isPlainChar (c : Char) : Bool := isPlainCode c.toNat

def isPlain (s : String) : Bool := (bytes s).all fun b => isPlainCode b.toNat

theorem isPlainCode_of_lt {n : Nat} (h : ';'.toNat < n) : isPlainCode n = true := by
  simp only [isPlainCode, Bool.and_eq_true, bne_iff_ne]
  change 59 < n at h
  change (n ≠ 39 ∧ n ≠ 34) ∧ n ≠ 59
  omega

theorem all_isPlainCode_utf8 (c : Char) :
    ((String.utf8EncodeChar c).all fun b => isPlainCode b.toNat) = isPlainChar c := by
  have hbyte {n : Nat} (hn : n < 256) : (UInt8.ofNat n).toNat = n := by
    rw [UInt8.toNat_ofNat', Nat.mod_eq_of_lt hn]
  have hlarge {n : Nat} (hn : n < 256) (h : 128 ≤ n) :
      isPlainCode (UInt8.ofNat n).toNat = true := by
    rw [hbyte hn]
    exact isPlainCode_of_lt (Nat.lt_of_lt_of_le (by decide) h)
  have hvalid : c.val.toNat < 0x110000 := by
    have h := c.valid
    simp only [UInt32.isValidChar, Nat.isValidChar] at h
    omega
  have hcode : ¬c.val.toNat ≤ 127 → isPlainChar c = true := fun h =>
    isPlainCode_of_lt (Nat.lt_trans (by decide) (Nat.not_le.mp h))
  unfold String.utf8EncodeChar
  dsimp only
  split
  · rw [List.all_cons, List.all_nil, Bool.and_true, hbyte (by omega)]
    rfl
  · next h =>
    rw [hcode h]
    split
    · simp only [List.all_cons, List.all_nil, Bool.and_true, Bool.and_eq_true]
      refine ⟨hlarge ?_ ?_, hlarge ?_ ?_⟩ <;> omega
    · split
      · simp only [List.all_cons, List.all_nil, Bool.and_true, Bool.and_eq_true]
        refine ⟨hlarge ?_ ?_, hlarge ?_ ?_, hlarge ?_ ?_⟩ <;> omega
      · simp only [List.all_cons, List.all_nil, Bool.and_true, Bool.and_eq_true]
        refine ⟨hlarge ?_ ?_, hlarge ?_ ?_, hlarge ?_ ?_, hlarge ?_ ?_⟩ <;> omega

theorem isPlain_eq (s : String) : isPlain s = s.toList.all isPlainChar := by
  rw [isPlain, bytes, ← String.utf8Encode_toList, List.utf8Encode, List.data_toByteArray,
    List.all_flatMap]
  exact congrArg _ (funext all_isPlainCode_utf8)

theorem isPlain_append (s t : String) : isPlain (s ++ t) = (isPlain s && isPlain t) := by
  rw [isPlain, bytes_append, List.all_append]
  rfl

theorem isPlainChar_iff {c : Char} : isPlainChar c = true ↔ c ≠ '\'' ∧ c ≠ '"' ∧ c ≠ ';' := by
  simp only [isPlainChar, isPlainCode, Bool.and_eq_true, bne_iff_ne, ne_eq, Char.toNat_inj,
    and_assoc]

theorem ofChar?_of_isPlainChar {c : Char} (h : isPlainChar c = true) : Mark.ofChar? c = none := by
  obtain ⟨hsingle, hdouble, -⟩ := isPlainChar_iff.mp h
  rw [Mark.ofChar?, if_neg hsingle, if_neg hdouble]

theorem closes_of_all {cs : List Char} (h : cs.all isPlainChar = true) :
    closes none cs = true := by
  induction cs with
  | nil => rfl
  | cons c cs ih =>
    rw [List.all_cons, Bool.and_eq_true] at h
    have hsemicolon : c ≠ ';' := (isPlainChar_iff.mp h.1).2.2
    rw [closes, ofChar?_of_isPlainChar h.1]
    exact (Bool.and_eq_true _ _).mpr ⟨bne_iff_ne.mpr hsemicolon, ih h.2⟩

theorem alike_of_isPlain {s : String} (h : isPlain s = true) : Alike s s :=
  alike_closed (closes_of_all (isPlain_eq s ▸ h))

theorem isPlainChar_of_isDigit {c : Char} (h : c.isDigit = true) : isPlainChar c = true := by
  refine isPlainChar_iff.mpr ⟨?_, ?_, ?_⟩
  · rintro rfl
    cases h
  · rintro rfl
    cases h
  · rintro rfl
    cases h

theorem isPlain_repr (n : Nat) : isPlain n.repr = true := by
  rw [isPlain_eq, Nat.toList_repr]
  exact List.all_eq_true.mpr fun c hc =>
    isPlainChar_of_isDigit (Nat.isDigit_of_mem_toDigits (by decide) (by decide) hc)

theorem isPlain_number (n : Int) : isPlain (toString n) = true := by
  cases n with
  | ofNat n => exact isPlain_repr n
  | negSucc n =>
    change isPlain ("-" ++ n.succ.repr) = true
    rw [isPlain_append, isPlain_repr]
    rfl

/-! ## Small letters -/

theorem isPlainChar_ofNat {n : Nat} (h : ';'.toNat < n) : isPlainChar (Char.ofNat n) = true := by
  by_cases hn : n.isValidChar
  · have hcode : (Char.ofNat n).toNat = n := by
      unfold Char.ofNat
      rw [dif_pos hn]
      rfl
    exact isPlainCode_of_lt (hcode.symm ▸ h)
  · rw [Char.ofNat, dif_neg hn]
    rfl

theorem lt_shift : ∀ r ∈ caseRuns, (';'.toNat : Int) < r.first + r.shift := by
  decide +kernel

theorem isPlainChar_toLower : ∀ n < 0x80, isPlainChar (Char.ofNat n) = true →
    isPlainChar (Char.ofNat n).toLower = true := by
  decide +kernel

theorem all_isPlainChar_lowerChar {c : Char} (h : isPlainChar c = true) :
    (lowerChar c).all isPlainChar = true := by
  unfold lowerChar
  split
  · next hascii =>
    have hlower := isPlainChar_toLower c.toNat hascii
    rw [Char.ofNat_toNat] at hlower
    simpa using hlower h
  · split
    · rfl
    · split
      · next r hr =>
        have hrun := List.find?_some hr
        have hfirst : r.first ≤ c.toNat := by
          simp only [CaseRun.contains, Bool.and_eq_true, decide_eq_true_eq] at hrun
          exact hrun.1.1
        have hshift := lt_shift r (List.mem_of_find?_eq_some hr)
        have hlt : ';'.toNat < (Int.ofNat c.toNat + r.shift).toNat := by
          simp only [Int.ofNat_eq_natCast]
          omega
        simpa using isPlainChar_ofNat hlt
      · simpa using h

theorem all_isPlainChar_lowerAfter {cs : List Char} (h : cs.all isPlainChar = true)
    (before : List Char) : (lowerAfter before cs).all isPlainChar = true := by
  induction cs generalizing before with
  | nil => rfl
  | cons c cs ih =>
    rw [List.all_cons, Bool.and_eq_true] at h
    rw [lowerAfter, List.all_append, ih h.2, Bool.and_true]
    split
    · unfold lowerSigma
      split <;> rfl
    · exact all_isPlainChar_lowerChar h.1

theorem isPlain_lower {s : String} (h : isPlain s = true) : isPlain (lower s) = true := by
  rw [isPlain_eq] at h ⊢
  rw [lower, String.toList_ofList]
  exact all_isPlainChar_lowerAfter h []

/-! ## Quoted texts -/

/-- Inside quotes a text with its marks doubled is read as the text. -/
theorem run_doubled (m : Mark) (done : List Token) (content cs : List Char) :
    Scan.run ⟨done, .inside m content⟩ (doubled m.char cs) = ⟨done, .inside m (content ++ cs)⟩ := by
  induction cs generalizing content with
  | nil => simp [Scan.run]
  | cons c cs ih =>
    by_cases hc : c = m.char
    · subst hc
      rw [doubled_cons_self]
      simpa [Scan.run, Scan.step] using ih (content ++ [m.char])
    · rw [doubled_cons_ne hc]
      simpa [Scan.run, Scan.step, hc] using ih (content ++ [c])

/-- Any two quoted texts are alike. -/
theorem alike_quote (m : Mark) (s t : String) : Alike (quote m.char s) (quote m.char t) := by
  intro scan hscan
  obtain ⟨⟨content, hmode⟩, hdone⟩ := hscan.step_mark m
  have hrun (u : String) : scan.run (quote m.char u).toList =
      ⟨(scan.step m.char).done, .closing m (content ++ u.toList)⟩ := by
    have hopened : scan.step m.char = ⟨(scan.step m.char).done, .inside m content⟩ := by
      rw [← hmode]
    rw [quote, String.toList_ofList]
    change (scan.step m.char).run (doubled m.char u.toList ++ [m.char]) = _
    rw [run_append, hopened, run_doubled]
    simp [Scan.run, Scan.step]
  rw [hrun s, hrun t]
  exact ⟨settled_closing hdone, rfl⟩

theorem doubled_of_not_mem {q : Char} {cs : List Char} (h : q ∉ cs) : doubled q cs = cs := by
  induction cs with
  | nil => rfl
  | cons c cs ih =>
    rw [List.mem_cons, not_or] at h
    rw [doubled_cons_ne (Ne.symm h.1), ih h.2]

theorem mark_not_mem_of_isPlain {s : String} (h : isPlain s = true) (m : Mark) :
    m.char ∉ s.toList := by
  intro hmem
  rw [isPlain_eq] at h
  obtain ⟨hsingle, hdouble, -⟩ := isPlainChar_iff.mp (List.all_eq_true.mp h _ hmem)
  cases m with
  | single => exact hsingle rfl
  | double => exact hdouble rfl

/-! ## Texts with their quotes in pairs -/

/-- The single quotes of the characters stand in pairs; a first one may stand before them. -/
def pairedAfter (opened : Bool) : List Char → Bool
  | [] => !opened
  | c :: cs =>
    if opened then c == '\'' && pairedAfter false cs else pairedAfter (c == '\'') cs

/-- Single quotes stand in the text only in pairs, as if they had been doubled. -/
def isPaired (s : String) : Bool := pairedAfter false s.toList

theorem doubled_of_pairedAfter (cs : List Char) :
    (pairedAfter false cs = true → ∃ ds, cs = doubled '\'' ds) ∧
      (pairedAfter true cs = true → ∃ ds, '\'' :: cs = doubled '\'' ds) := by
  induction cs with
  | nil => exact ⟨fun _ => ⟨[], rfl⟩, fun h => by cases h⟩
  | cons c cs ih =>
    constructor
    · intro h
      by_cases hc : c = '\''
      · subst hc
        exact ih.2 h
      · have hrest : pairedAfter false cs = true := by
          simpa [pairedAfter, beq_eq_false_iff_ne.mpr hc] using h
        obtain ⟨ds, rfl⟩ := ih.1 hrest
        exact ⟨c :: ds, (doubled_cons_ne hc ds).symm⟩
    · intro h
      obtain ⟨hc, hrest⟩ := (Bool.and_eq_true _ _).mp h
      obtain ⟨ds, rfl⟩ := ih.1 hrest
      cases beq_iff_eq.mp hc
      exact ⟨'\'' :: ds, (doubled_cons_self '\'' ds).symm⟩

theorem pairedAfter_append {opened : Bool} {cs ds : List Char} (hcs : pairedAfter opened cs = true)
    (hds : pairedAfter false ds = true) : pairedAfter opened (cs ++ ds) = true := by
  induction cs generalizing opened with
  | nil =>
    cases opened with
    | false => exact hds
    | true => cases hcs
  | cons c cs ih =>
    cases opened with
    | false => exact ih hcs
    | true =>
      obtain ⟨hc, hrest⟩ := (Bool.and_eq_true _ _).mp hcs
      exact (Bool.and_eq_true _ _).mpr ⟨hc, ih hrest⟩

theorem isPaired_append {s t : String} (hs : isPaired s = true) (ht : isPaired t = true) :
    isPaired (s ++ t) = true := by
  rw [isPaired, String.toList_append]
  exact pairedAfter_append hs ht

theorem pairedAfter_of_not_mem {cs : List Char} (h : '\'' ∉ cs) : pairedAfter false cs = true := by
  induction cs with
  | nil => rfl
  | cons c cs ih =>
    rw [List.mem_cons, not_or] at h
    rw [pairedAfter, if_neg Bool.false_ne_true, beq_eq_false_iff_ne.mpr (Ne.symm h.1)]
    exact ih h.2

theorem isPaired_of_isPlain {s : String} (h : isPlain s = true) : isPaired s = true :=
  pairedAfter_of_not_mem (mark_not_mem_of_isPlain h .single)

/-- Between single quotes, any two texts with their quotes in pairs are alike. -/
theorem alike_between {s t : String} (hs : isPaired s = true) (ht : isPaired t = true) :
    Alike ("'" ++ s ++ "'") ("'" ++ t ++ "'") := by
  have hquote {u : String} (hu : isPaired u = true) :
      ∃ v, "'" ++ u ++ "'" = quote Mark.single.char v := by
    obtain ⟨ds, hds⟩ := (doubled_of_pairedAfter u.toList).1 hu
    refine ⟨String.ofList ds, String.toList_injective ?_⟩
    simp [quote, String.toList_append, hds, Mark.char]
  obtain ⟨s', hs'⟩ := hquote hs
  obtain ⟨t', ht'⟩ := hquote ht
  rw [hs', ht']
  exact alike_quote .single s' t'

end LearningReports.Text
