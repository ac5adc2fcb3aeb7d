import LearningReports.Text.Blank
import LearningReports.Text.Quoted

/-! # Cutting queries into tokens

A query is cut into words, symbols, literals in single quotes and identifiers in double quotes; the
mark of a quoted token is written twice inside it. The cutting is one pass over the characters. What
it does next depends on the kinds of what it has seen, never on what stands between quotes. -/
namespace LearningReports.Text

/-- The marks that open and close quoted tokens. -/
inductive Mark where
  | single
  | double
  deriving Repr, DecidableEq

def Mark.char : Mark → Char
  | .single => '\''
  | .double => '"'

def Mark.ofChar? (c : Char) : Option Mark :=
  if c = '\'' then some .single else if c = '"' then some .double else none

inductive Token where
  | word (cs : List Char)
  | symbol (c : Char)
  | quoted (m : Mark) (content : List Char)
  /-- A quoted token that the text does not close. -/
  | unclosed (m : Mark) (content : List Char)
  deriving Repr, DecidableEq

/-- The token without what stands between its quotes. -/
def Token.shape : Token → Token
  | .quoted m _ => .quoted m []
  | .unclosed m _ => .unclosed m []
  | t => t

def Token.isInner : Token → Bool
  | .symbol c => c != ';'
  | .unclosed _ _ => false
  | .word _ | .quoted _ _ => true

/-- Where a pass over a text is. -/
inductive Mode where
  /-- Outside of quotes, behind the characters of a word. -/
  | plain (word : List Char)
  | inside (m : Mark) (content : List Char)
  /-- Behind a mark that closes a token, unless another one follows. -/
  | closing (m : Mark) (content : List Char)
  deriving Repr, DecidableEq

def Mode.shape : Mode → Mode
  | .inside m _ => .inside m []
  | .closing m _ => .closing m []
  | mode => mode

/-- The tokens that a pass has found, and where it is. -/
structure Scan where
  done : List Token := []
  mode : Mode := .plain []
  deriving Repr, DecidableEq

def isWordChar (c : Char) : Bool := c.isAlphanum || c == '_'

namespace Scan

def wordTokens : List Char → List Token
  | [] => []
  | c :: cs => [.word (c :: cs)]

def stepPlain (done : List Token) (word : List Char) (c : Char) : Scan :=
  match Mark.ofChar? c with
  | some m => ⟨done ++ wordTokens word, .inside m []⟩
  | none =>
    if isWordChar c then ⟨done, .plain (word ++ [c])⟩
    else if isSpacing c then ⟨done ++ wordTokens word, .plain []⟩
    else ⟨done ++ wordTokens word ++ [.symbol c], .plain []⟩

/-- One more character. -/
def step (s : Scan) (c : Char) : Scan :=
  match s.mode with
  | .plain word => stepPlain s.done word c
  | .inside m content =>
    if c = m.char then { s with mode := .closing m content }
    else { s with mode := .inside m (content ++ [c]) }
  | .closing m content =>
    if c = m.char then { s with mode := .inside m (content ++ [c]) }
    else stepPlain (s.done ++ [.quoted m content]) [] c

def run (s : Scan) (cs : List Char) : Scan := cs.foldl step s

/-- The tokens when the text is over. -/
def finish (s : Scan) : List Token :=
  s.done ++ match s.mode with
    | .plain word => wordTokens word
    | .inside m content => [.unclosed m content]
    | .closing m content => [.quoted m content]

def shape (s : Scan) : Scan := ⟨s.done.map Token.shape, s.mode.shape⟩

end Scan

/-- The tokens of a text. -/
def tokens (s : String) : List Token := (Scan.run {} s.toList).finish

/-- Two texts are cut into the same tokens, but for what stands between quotes. -/
def SameStructure (s t : String) : Prop := (tokens s).map Token.shape = (tokens t).map Token.shape

/-- The text is one statement: all quotes are closed and no semicolon stands outside of them. -/
def OneStatement (s : String) : Prop := ∀ t ∈ tokens s, t.isInner = true

/-! ## Shapes -/

@[simp] theorem Token.shape_shape (t : Token) : t.shape.shape = t.shape := by
  cases t with
  | _ => rfl

@[simp] theorem Token.isInner_shape (t : Token) : t.shape.isInner = t.isInner := by
  cases t with
  | _ => rfl

namespace Scan

@[simp] theorem map_shape_wordTokens (cs : List Char) :
    (wordTokens cs).map Token.shape = wordTokens cs := by
  cases cs with
  | nil => rfl
  | cons c cs => rfl

theorem shape_stepPlain (done : List Token) (word : List Char) (c : Char) :
    (stepPlain done word c).shape = (stepPlain (done.map Token.shape) word c).shape := by
  unfold stepPlain
  split
  · simp [shape]
  · split
    · simp [shape]
    · split
      · simp [shape]
      · simp [shape]

theorem shape_step (s : Scan) (c : Char) : (s.step c).shape = (s.shape.step c).shape := by
  obtain ⟨done, mode⟩ := s
  cases mode with
  | plain word => exact shape_stepPlain done word c
  | inside m content =>
    simp only [step, shape, Mode.shape]
    split
    · simp
    · simp
  | closing m content =>
    simp only [step, shape, Mode.shape]
    split
    · simp
    · have hdone : (done ++ [Token.quoted m content]).map Token.shape =
          (done.map Token.shape ++ [Token.quoted m []]).map Token.shape := by
        rw [List.map_append, List.map_append, List.map_map]
        congr 1
        exact List.map_congr_left fun t _ => t.shape_shape.symm
      have h := shape_stepPlain (done ++ [Token.quoted m content]) [] c
      rw [hdone, ← shape_stepPlain] at h
      exact h

theorem shape_run (s : Scan) (cs : List Char) : (s.run cs).shape = (s.shape.run cs).shape := by
  induction cs generalizing s with
  | nil => simp [run, shape, Mode.shape]; cases s.mode <;> rfl
  | cons c cs ih =>
    change ((s.step c).run cs).shape = ((s.shape.step c).run cs).shape
    rw [ih (s.step c), shape_step, ← ih (s.shape.step c)]

theorem run_append (s : Scan) (cs ds : List Char) : s.run (cs ++ ds) = (s.run cs).run ds :=
  List.foldl_append

theorem map_shape_finish (s : Scan) : s.finish.map Token.shape = s.shape.finish := by
  obtain ⟨done, mode⟩ := s
  cases mode with
  | _ => simp [finish, shape, Mode.shape, Token.shape]

/-! ## Settled passes -/

/-- The pass is outside of quotes and has left the statement nowhere. -/
structure Settled (s : Scan) : Prop where
  outside : ∀ m content, s.mode ≠ .inside m content
  inner : ∀ t ∈ s.done, t.isInner = true

theorem settled_start : Settled {} := ⟨nofun, nofun⟩

theorem settled_plain {done : List Token} {word : List Char} (h : ∀ t ∈ done, t.isInner = true) :
    Settled ⟨done, .plain word⟩ :=
  ⟨nofun, h⟩

theorem settled_closing {done : List Token} {m : Mark} {content : List Char}
    (h : ∀ t ∈ done, t.isInner = true) : Settled ⟨done, .closing m content⟩ :=
  ⟨nofun, h⟩

theorem settled_of_shape {s t : Scan} (hs : s.Settled) (h : s.shape = t.shape) : t.Settled := by
  have hmode : s.mode.shape = t.mode.shape := congrArg mode h
  have hdone : s.done.map Token.shape = t.done.map Token.shape := congrArg done h
  refine ⟨fun m content ht => ?_, fun token htoken => ?_⟩
  · rw [ht] at hmode
    cases hm : s.mode with
    | inside m' content' => exact hs.outside m' content' hm
    | plain word =>
      rw [hm] at hmode
      cases hmode
    | closing m' content' =>
      rw [hm] at hmode
      cases hmode
  · have hshape : token.shape ∈ s.done.map Token.shape := by
      rw [hdone]
      exact List.mem_map_of_mem htoken
    obtain ⟨token', htoken', heq⟩ := List.mem_map.mp hshape
    rw [← token.isInner_shape, ← heq, token'.isInner_shape]
    exact hs.inner token' htoken'

theorem isInner_of_mem_wordTokens {word : List Char} {t : Token} (h : t ∈ wordTokens word) :
    t.isInner = true := by
  cases word with
  | nil => cases h
  | cons c cs =>
    cases List.mem_singleton.mp h
    rfl

/-- Where a pass is settled at the end, the text is one statement. -/
theorem Settled.finish {s : Scan} (h : s.Settled) : ∀ t ∈ s.finish, t.isInner = true := by
  intro t ht
  rcases List.mem_append.mp ht with ht | ht
  · exact h.inner t ht
  · cases hm : s.mode with
    | inside m content => exact absurd hm (h.outside m content)
    | plain word =>
      rw [hm] at ht
      exact isInner_of_mem_wordTokens ht
    | closing m content =>
      rw [hm] at ht
      cases List.mem_singleton.mp ht
      rfl

/-! ## Whole texts -/

theorem mem_done_stepPlain {t : Token} {done : List Token} (h : t ∈ done) (word : List Char)
    (c : Char) : t ∈ (stepPlain done word c).done := by
  unfold stepPlain
  split
  · exact List.mem_append_left _ h
  · split
    · exact h
    · split
      · exact List.mem_append_left _ h
      · exact List.mem_append_left _ (List.mem_append_left _ h)

theorem mem_done_run {t : Token} {s : Scan} (h : t ∈ s.done) (cs : List Char) :
    t ∈ (s.run cs).done := by
  induction cs generalizing s with
  | nil => exact h
  | cons c cs ih =>
    refine ih ?_
    obtain ⟨done, mode⟩ := s
    cases mode with
    | plain word => exact mem_done_stepPlain h word c
    | inside m content =>
      simp only [step]
      split
      · exact h
      · exact h
    | closing m content =>
      simp only [step]
      split
      · exact h
      · exact mem_done_stepPlain (List.mem_append_left _ h) [] c

end Scan

theorem SameStructure.oneStatement {s t : String} (h : SameStructure s t) (hs : OneStatement s) :
    OneStatement t := by
  intro token htoken
  have hshape : token.shape ∈ (tokens s).map Token.shape := by
    rw [h]
    exact List.mem_map_of_mem htoken
  obtain ⟨token', htoken', heq⟩ := List.mem_map.mp hshape
  rw [← token.isInner_shape, ← heq, token'.isInner_shape]
  exact hs token' htoken'

/-- A statement that was left is not entered again. -/
theorem not_oneStatement_append {s : String} (rest : String) {t : Token}
    (h : t ∈ (Scan.run {} s.toList).done) (ht : t.isInner = false) :
    ¬OneStatement (s ++ rest) := by
  intro hone
  have hmem : t ∈ tokens (s ++ rest) := by
    rw [tokens, String.toList_append, Scan.run_append]
    exact List.mem_append_left _ (Scan.mem_done_run h rest.toList)
  rw [hone t hmem] at ht
  cases ht

end LearningReports.Text
