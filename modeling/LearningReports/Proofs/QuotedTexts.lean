import LearningReports.Proofs.AlikeTexts
import LearningReports.Proofs.ReadConditions

/-! # Reading quoted texts back

A quoted text is read back from the beginning of any longer text: it ends at its own closing mark,
neither before nor behind it, as long as no other mark follows at once. When a statement is cut into
tokens, the quoted text is one of them and the rest is cut as if it stood alone. -/
namespace LearningReports.Text

/-- Behind an opening mark: the characters up to the mark that closes the text, and what follows it.
Two marks in a row stand for one character of the text. -/
def readContent (q : Char) : List Char → Option (List Char × List Char)
  | [] => none
  | [c] => if c = q then some ([], []) else none
  | c :: d :: cs =>
    if c = q then
      if d = q then (readContent q cs).map fun (text, rest) => (q :: text, rest)
      else some ([], d :: cs)
    else (readContent q (d :: cs)).map fun (text, rest) => (c :: text, rest)

def readQuoted (m : Mark) (s : String) : Option (String × String) :=
  match s.toList with
  | [] => none
  | c :: cs =>
    if c = m.char then
      (readContent m.char cs).map fun (text, rest) => (String.ofList text, String.ofList rest)
    else none

def BeginsWith (m : Mark) (s : String) : Prop := s.toList.head? = some m.char

/-! ## Up to the closing mark -/

section Content

variable {q c : Char} {cs text rest : List Char}

theorem readContent_mark_mark (q : Char) (cs : List Char) : readContent q (q :: q :: cs) =
    (readContent q cs).map fun (text, rest) => (q :: text, rest) := by
  simp [readContent]

theorem readContent_closed (h : rest.head? ≠ some q) :
    readContent q (q :: rest) = some ([], rest) := by
  cases rest with
  | nil => simp [readContent]
  | cons d ds =>
    have hd : d ≠ q := fun heq => h (congrArg some heq)
    simp [readContent, hd]

theorem readContent_cons_ne (h : c ≠ q) (cs : List Char) : readContent q (c :: cs) =
    (readContent q cs).map fun (text, rest) => (c :: text, rest) := by
  cases cs with
  | nil => simp [readContent, h]
  | cons d ds => simp [readContent, h]

theorem readContent_doubled (h : rest.head? ≠ some q) (text : List Char) :
    readContent q (doubled q text ++ q :: rest) = some (text, rest) := by
  induction text with
  | nil => exact readContent_closed h
  | cons c cs ih =>
    by_cases hc : c = q
    · subst hc
      simp [doubled_cons_self, readContent_mark_mark, ih]
    · simp [doubled_cons_ne hc, readContent_cons_ne hc, ih]

theorem eq_of_readContent (h : readContent q cs = some (text, rest)) :
    cs = doubled q text ++ q :: rest ∧ rest.head? ≠ some q := by
  induction cs using readContent.induct q generalizing text rest with
  | case1 => cases h
  | case2 =>
    rw [readContent_closed (by simp)] at h
    cases h
    exact ⟨rfl, by simp⟩
  | case3 c hc =>
    rw [readContent_cons_ne hc] at h
    cases h
  | case4 cs ih =>
    rw [readContent_mark_mark] at h
    obtain ⟨⟨text', rest'⟩, hread, heq⟩ := Option.map_eq_some_iff.mp h
    cases heq
    obtain ⟨rfl, hrest⟩ := ih hread
    exact ⟨by simp [doubled_cons_self], hrest⟩
  | case5 d cs hd =>
    have hnext : (d :: cs).head? ≠ some q := fun heq => hd (Option.some.inj heq)
    rw [readContent_closed hnext] at h
    cases h
    exact ⟨rfl, hnext⟩
  | case6 c d cs hc ih =>
    rw [readContent_cons_ne hc] at h
    obtain ⟨⟨text', rest'⟩, hread, heq⟩ := Option.map_eq_some_iff.mp h
    cases heq
    obtain ⟨htail, hrest⟩ := ih hread
    rw [htail]
    exact ⟨by simp [doubled_cons_ne hc], hrest⟩

end Content

/-! ## Whole texts -/

section Quoted

variable (m : Mark) {s text rest : String}

theorem readQuoted_eq_some_iff : readQuoted m s = some (text, rest) ↔
    s = quote m.char text ++ rest ∧ ¬BeginsWith m rest := by
  have hwritten : (quote m.char text ++ rest).toList =
      m.char :: (doubled m.char text.toList ++ m.char :: rest.toList) := by
    simp [quote]
  constructor
  · intro h
    unfold readQuoted at h
    split at h
    · cases h
    · next c cs hs =>
      split at h
      · next hc =>
        obtain ⟨⟨text', rest'⟩, hread, heq⟩ := Option.map_eq_some_iff.mp h
        cases heq
        obtain ⟨hcs, hrest⟩ := eq_of_readContent hread
        refine ⟨String.toList_injective ?_, ?_⟩
        · rw [hwritten, hs, hc, hcs, String.toList_ofList, String.toList_ofList]
        · rwa [BeginsWith, String.toList_ofList]
      · cases h
  · intro h
    rw [readQuoted, h.1, hwritten]
    dsimp only
    rw [if_pos rfl, readContent_doubled h.2]
    simp

theorem quote_injective : Function.Injective (quote m.char) := by
  intro text text' h
  have hend : ¬BeginsWith m "" := by simp [BeginsWith]
  have hread (t : String) : readQuoted m (quote m.char t ++ "") = some (t, "") :=
    (readQuoted_eq_some_iff m).mpr ⟨rfl, hend⟩
  have hsame := hread text
  rw [h, hread text'] at hsame
  exact (congrArg Prod.fst (Option.some.inj hsame)).symm

end Quoted

/-! ## Quoted texts in statements -/

/-- The mark opens a token here: the pass is outside of quotes, and the mark does not go on with a
token that the same mark has just closed. -/
def Scan.IsOpenedBy (s : Scan) (m : Mark) : Prop :=
  match s.mode with
  | .plain _ => True
  | .closing m' _ => m' ≠ m
  | .inside _ _ => False

/-- Behind the text, the mark opens a token. -/
def OpensBehind (m : Mark) (before : String) : Prop := (Scan.run {} before.toList).IsOpenedBy m

theorem Scan.IsOpenedBy.step {s : Scan} {m : Mark} (h : s.IsOpenedBy m) :
    s.step m.char = ⟨s.finish, .inside m []⟩ := by
  obtain ⟨done, mode⟩ := s
  cases mode with
  | plain word => simp [Scan.step, Scan.stepPlain, m.ofChar?_char, Scan.finish]
  | inside m' content => exact h.elim
  | closing m' content =>
    have hne : m.char ≠ m'.char := by
      intro heq
      apply h
      cases m <;> cases m' <;> first | rfl | cases heq
    simp [Scan.step, hne, Scan.stepPlain, m.ofChar?_char, Scan.finish, Scan.wordTokens]

/-- Behind a quoted text a statement goes on as if it began there. -/
theorem finish_run_closing (pre : List Token) {m : Mark} (content : List Char) {rest : String}
    (h : ¬BeginsWith m rest) :
    (Scan.run ⟨pre, .closing m content⟩ rest.toList).finish =
      pre ++ .quoted m content :: tokens rest := by
  unfold tokens
  unfold BeginsWith at h
  cases hrest : rest.toList with
  | nil => rfl
  | cons c cs =>
    have hc : c ≠ m.char := by
      intro heq
      apply h
      rw [hrest, heq]
      rfl
    have hstep : Scan.step ⟨pre, .closing m content⟩ c =
        (Scan.step {} c).behind (pre ++ [.quoted m content]) := by
      have hplain := Scan.stepPlain_behind (pre ++ [.quoted m content]) [] [] c
      rw [List.append_nil] at hplain
      simpa [Scan.step, hc] using hplain
    change ((Scan.step _ c).run cs).finish = _
    rw [hstep, Scan.run_behind, Scan.finish_behind, List.append_assoc]
    rfl

/-- A quoted text in a statement is one token, whatever stands before and behind it. -/
theorem tokens_quote {m : Mark} {before rest : String} (hbefore : OpensBehind m before)
    (hrest : ¬BeginsWith m rest) (text : String) :
    tokens (before ++ quote m.char text ++ rest) =
      tokens before ++ .quoted m text.toList :: tokens rest := by
  have hlist : (before ++ quote m.char text ++ rest).toList =
      before.toList ++ (m.char :: (doubled m.char text.toList ++ m.char :: rest.toList)) := by
    simp [quote]
  have hopened := Scan.IsOpenedBy.step hbefore
  rw [tokens, hlist, Scan.run_append]
  change (((Scan.run {} before.toList).step m.char).run _).finish = _
  rw [hopened, Scan.run_append, run_doubled]
  change ((Scan.step _ m.char).run rest.toList).finish = _
  rw [show Scan.step ⟨_, .inside m ([] ++ text.toList)⟩ m.char =
    ⟨(Scan.run {} before.toList).finish, .closing m text.toList⟩ by simp [Scan.step]]
  exact finish_run_closing _ _ hrest

/-- Written texts can be told from whatever follows them. Reading gives the text and the rest of
just those texts that begin with a written one, and where a mark opens a token a written text is
one. -/
structure ReadsBack (m : Mark) (write : String → String) : Prop where
  reads_iff : ∀ s text rest, readQuoted m s = some (text, rest) ↔
    s = write text ++ rest ∧ ¬BeginsWith m rest
  injective : Function.Injective write
  cut : ∀ before text rest, OpensBehind m before → ¬BeginsWith m rest →
    tokens (before ++ write text ++ rest) = tokens before ++ .quoted m text.toList :: tokens rest

theorem readsBack_quote (m : Mark) : ReadsBack m (quote m.char) where
  reads_iff _ _ _ := readQuoted_eq_some_iff m
  injective := quote_injective m
  cut _ text _ hbefore hrest := tokens_quote hbefore hrest text

end LearningReports.Text

namespace LearningReports.Sql.Dialect

/-- Literals are read back between single quotes, and the names of columns between double ones. -/
theorem literals_and_names_readBack (d : Dialect) :
    Text.ReadsBack .single (fun text => d.render (.str text)) ∧
      Text.ReadsBack .double (fun text => d.render (.label text)) :=
  ⟨Text.readsBack_quote .single, Text.readsBack_quote .double⟩

/-- A text of quotes at both ends and side by side, before a comma. -/
example : Text.readQuoted .single (athena.render (.str "'a''b'") ++ ", 'c'") =
    some ("'a''b'", ", 'c'") := by decide

end LearningReports.Sql.Dialect
