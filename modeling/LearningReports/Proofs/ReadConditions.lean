import LearningReports.Proofs.DateOptions
import LearningReports.Proofs.Tokens
import LearningReports.Sql.Dialect

/-! # Reading conditions

The text of a condition is read as a query engine reads it: cut into tokens, with brackets matched,
OR between what AND joins and AND between the parts. A comparison of an operand with a written point
in time compares what the operand holds; a condition of any other kind holds or not as the facts
about a row say. -/
namespace LearningReports.Text

/-! ## Cutting what stands in a row -/

namespace Scan

def behind (pre : List Token) (s : Scan) : Scan := ⟨pre ++ s.done, s.mode⟩

theorem stepPlain_behind (pre done : List Token) (word : List Char) (c : Char) :
    stepPlain (pre ++ done) word c = (stepPlain done word c).behind pre := by
  unfold stepPlain
  split
  · simp [behind]
  · split
    · simp [behind]
    · split <;> simp [behind]

theorem step_behind (pre : List Token) (s : Scan) (c : Char) :
    (s.behind pre).step c = (s.step c).behind pre := by
  obtain ⟨done, mode⟩ := s
  cases mode with
  | plain word => exact stepPlain_behind pre done word c
  | inside m content =>
    simp only [behind, step]
    split <;> rfl
  | closing m content =>
    simp only [behind, step, List.append_assoc]
    split
    · rfl
    · exact stepPlain_behind pre _ [] c

theorem run_behind (pre : List Token) (s : Scan) (cs : List Char) :
    (s.behind pre).run cs = (s.run cs).behind pre := by
  induction cs generalizing s with
  | nil => rfl
  | cons c cs ih =>
    change ((s.behind pre).step c).run cs = ((s.step c).run cs).behind pre
    rw [step_behind, ih]

theorem finish_behind (pre : List Token) (s : Scan) : (s.behind pre).finish = pre ++ s.finish :=
  List.append_assoc ..

def isInside (s : Scan) : Bool :=
  match s.mode with
  | .inside _ _ => true
  | .plain _ | .closing _ _ => false

end Scan

/-- The text closes its quotes. -/
def Closed (s : String) : Prop := (Scan.run {} s.toList).isInside = false

instance (s : String) : Decidable (Closed s) := inferInstanceAs (Decidable (_ = _))

/-- The character separates: it is no mark and no part of a word. -/
def isSeparator (c : Char) : Bool := (Mark.ofChar? c).isNone && !isWordChar c

def separatorTokens (c : Char) : List Token := if isSpacing c then [] else [.symbol c]

/-- Behind a separating character a text is cut as if it stood alone. -/
theorem Scan.step_separator {s : Scan} (hs : s.isInside = false) {c : Char}
    (hc : isSeparator c = true) : s.step c = Scan.behind (s.finish ++ separatorTokens c) {} := by
  obtain ⟨hmark, hword⟩ := (Bool.and_eq_true _ _).mp hc
  have hmark : Mark.ofChar? c = none := Option.isNone_iff_eq_none.mp hmark
  have hplain (done : List Token) (word : List Char) :
      Scan.stepPlain done word c =
        Scan.behind (done ++ Scan.wordTokens word ++ separatorTokens c) {} := by
    have hword : ¬isWordChar c = true := by simpa using hword
    rw [Scan.stepPlain, hmark]
    dsimp only
    rw [if_neg hword, separatorTokens, Scan.behind]
    split <;> simp
  obtain ⟨done, mode⟩ := s
  cases mode with
  | plain word => exact hplain done word
  | inside m content => cases hs
  | closing m content =>
    have hne : c ≠ m.char := by
      rintro rfl
      cases m <;> cases hmark
    have hfinish : done ++ [.quoted m content] ++ Scan.wordTokens [] =
        done ++ [.quoted m content] := List.append_nil _
    simp only [Scan.step, if_neg hne, Scan.finish]
    rw [hplain, hfinish]

section Separated

variable {s : String} {c : Char} (hs : Closed s) (hc : isSeparator c = true) (t : String)
include hs hc

theorem run_separated :
    Scan.run {} (s ++ String.singleton c ++ t).toList =
      (Scan.run {} t.toList).behind (tokens s ++ separatorTokens c) := by
  have hlist : (s ++ String.singleton c ++ t).toList = s.toList ++ (c :: t.toList) := by simp
  rw [hlist, Scan.run_append]
  change ((Scan.run {} s.toList).step c).run t.toList = _
  rw [Scan.step_separator hs hc, Scan.run_behind]
  rfl

theorem tokens_separated :
    tokens (s ++ String.singleton c ++ t) = tokens s ++ separatorTokens c ++ tokens t := by
  rw [tokens, run_separated hs hc, Scan.finish_behind]
  rfl

theorem Closed.separated (ht : Closed t) : Closed (s ++ String.singleton c ++ t) := by
  unfold Closed
  rw [run_separated hs hc]
  exact ht

end Separated

/-! ## Brackets -/

/-- What stands between a pair of tokens that belong together: parentheses, or CASE and END. -/
inductive Bracket where
  | round
  | choice
  deriving Repr, DecidableEq

def Bracket.opening : Bracket → Token
  | .round => .symbol '('
  | .choice => .word ['C', 'A', 'S', 'E']

def Bracket.closing : Bracket → Token
  | .round => .symbol ')'
  | .choice => .word ['E', 'N', 'D']

/-- A text with its brackets matched: tokens and groups, one after the other. -/
inductive Trees where
  | nil
  | leaf (t : Token) (rest : Trees)
  | group (b : Bracket) (inner rest : Trees)
  deriving Repr, DecidableEq

inductive Edge where
  | opens (b : Bracket)
  | closes (b : Bracket)
  | none
  deriving Repr, DecidableEq

def Token.edge (t : Token) : Edge :=
  if t = Bracket.round.opening then .opens .round
  else if t = Bracket.choice.opening then .opens .choice
  else if t = Bracket.round.closing then .closes .round
  else if t = Bracket.choice.closing then .closes .choice
  else .none

namespace Trees

def tokens : Trees → List Token
  | nil => []
  | leaf t rest => t :: rest.tokens
  | group b inner rest => b.opening :: (inner.tokens ++ b.closing :: rest.tokens)

def append : Trees → Trees → Trees
  | nil, u => u
  | leaf t rest, u => leaf t (rest.append u)
  | group b inner rest, u => group b inner (rest.append u)

/-- No token outside of the groups' own is a bracket. -/
def IsPlain : Trees → Prop
  | nil => True
  | leaf t rest => t.edge = .none ∧ rest.IsPlain
  | group _ inner rest => inner.IsPlain ∧ rest.IsPlain

/-- Where matching is, from the right: behind what follows in the same brackets, and behind the
rests of the brackets around. -/
structure Pending where
  current : Trees := nil
  around : List (Bracket × Trees) := []

def Pending.add (t : Token) (p : Pending) : Option Pending :=
  match t.edge with
  | .none => some { p with current := leaf t p.current }
  | .closes b => some ⟨nil, (b, p.current) :: p.around⟩
  | .opens b =>
    match p.around with
    | (b', rest) :: around => if b = b' then some ⟨group b p.current rest, around⟩ else none
    | [] => none

def Pending.addAll (ts : List Token) (p : Pending) : Option Pending :=
  ts.foldr (fun t p => p.bind (Pending.add t)) (some p)

/-- The tokens with their brackets matched. -/
def ofTokens (ts : List Token) : Option Trees :=
  match Pending.addAll ts {} with
  | some ⟨current, []⟩ => some current
  | _ => none

@[simp] theorem append_nil (t : Trees) : t.append nil = t := by
  induction t with
  | nil => rfl
  | leaf t rest ih => exact congrArg (leaf t) ih
  | group b inner rest _ ih => exact congrArg (group b inner) ih

@[simp] theorem tokens_append (t u : Trees) : (t.append u).tokens = t.tokens ++ u.tokens := by
  induction t with
  | nil => rfl
  | leaf t rest ih => simp [append, tokens, ih]
  | group b inner rest _ ih => simp [append, tokens, ih]

theorem IsPlain.append {t u : Trees} (ht : t.IsPlain) (hu : u.IsPlain) : (t.append u).IsPlain := by
  induction t with
  | nil => exact hu
  | leaf t rest ih => exact ⟨ht.1, ih ht.2⟩
  | group b inner rest _ ih => exact ⟨ht.1, ih ht.2⟩

theorem Pending.addAll_append (ts us : List Token) (p : Pending) :
    addAll (ts ++ us) p = (addAll us p).bind (addAll ts) := by
  have hnone (ts : List Token) :
      ts.foldr (fun t p => p.bind (Pending.add t)) (none : Option Pending) = none := by
    induction ts with
    | nil => rfl
    | cons t ts ih => rw [List.foldr_cons, ih]; rfl
  rw [addAll, List.foldr_append]
  change ts.foldr _ (addAll us p) = _
  cases addAll us p with
  | none => exact hnone ts
  | some q => rfl

/-- The tokens of trees are matched as the trees, whatever follows. -/
theorem addAll_tokens {t : Trees} (h : t.IsPlain) (p : Pending) :
    Pending.addAll t.tokens p = some { p with current := t.append p.current } := by
  induction t generalizing p with
  | nil => rfl
  | leaf t rest ih =>
    change (Pending.addAll rest.tokens p).bind (Pending.add t) = _
    rw [ih h.2, Option.bind_some, Pending.add, h.1]
    rfl
  | group b inner rest ihinner ihrest =>
    have hopen : b.opening.edge = .opens b := by cases b <;> rfl
    have hclose : b.closing.edge = .closes b := by cases b <;> rfl
    change (Pending.addAll (inner.tokens ++ b.closing :: rest.tokens) p).bind
      (Pending.add b.opening) = _
    rw [Pending.addAll_append]
    change (((Pending.addAll rest.tokens p).bind (Pending.add b.closing)).bind _).bind _ = _
    rw [ihrest h.2, Option.bind_some, Pending.add, hclose]
    dsimp only
    rw [Option.bind_some, ihinner h.1, Option.bind_some, Pending.add, hopen]
    dsimp only
    rw [if_pos rfl, append_nil]
    rfl

theorem ofTokens_tokens {t : Trees} (h : t.IsPlain) : ofTokens t.tokens = some t := by
  rw [ofTokens, addAll_tokens h]
  exact congrArg some (append_nil t)

end Trees

/-- The text closes its quotes and its tokens are those of the trees. -/
structure Spells (s : String) (t : Trees) : Prop where
  closed : Closed s
  tokens_eq : tokens s = t.tokens
  plain : t.IsPlain

namespace Spells

variable {s s' : String} {t t' : Trees}

theorem ofTokens_eq (h : Spells s t) : Trees.ofTokens (tokens s) = some t := by
  rw [h.tokens_eq]
  exact Trees.ofTokens_tokens h.plain

theorem congr (h : Spells s t) (heq : s.toList = s'.toList) : Spells s' t :=
  String.toList_injective heq ▸ h

theorem empty : Spells "" .nil := ⟨rfl, rfl, trivial⟩

theorem blank (h : Spells s t) (h' : Spells s' t') : Spells (s ++ " " ++ s') (t.append t') where
  closed := h.closed.separated (c := ' ') (by decide) s' h'.closed
  tokens_eq := by
    have hcut := tokens_separated h.closed (c := ' ') (by decide) s'
    have hnone : separatorTokens ' ' = [] := by decide
    rw [hnone, List.append_nil] at hcut
    rw [Trees.tokens_append, ← h.tokens_eq, ← h'.tokens_eq]
    exact hcut
  plain := h.plain.append h'.plain

theorem call (h : Spells s t) (h' : Spells s' t') :
    Spells (s ++ "(" ++ s' ++ ")") (t.append (.group .round t' .nil)) where
  closed := by
    have hinner := h.closed.separated (c := '(') (by decide) s' h'.closed
    have hall := hinner.separated (c := ')') (by decide) "" rfl
    simpa using hall
  tokens_eq := by
    have hinner := h.closed.separated (c := '(') (by decide) s' h'.closed
    have hopen := tokens_separated h.closed (c := '(') (by decide) s'
    have hclose := tokens_separated hinner (c := ')') (by decide) ""
    have hsymbols : separatorTokens '(' = [.symbol '('] ∧ separatorTokens ')' = [.symbol ')'] := by
      decide
    rw [hopen, hsymbols.1, hsymbols.2, h.tokens_eq, h'.tokens_eq] at hclose
    have hempty : tokens "" = [] := rfl
    simpa [Trees.tokens, Bracket.opening, Bracket.closing, hempty] using hclose
  plain := h.plain.append ⟨h'.plain, trivial⟩

theorem paren (h : Spells s t) : Spells ("(" ++ s ++ ")") (.group .round t .nil) := by
  simpa [Trees.append] using empty.call h

theorem comma (h : Spells s t) (h' : Spells s' t') :
    Spells (s ++ ", " ++ s') (t.append (.leaf (.symbol ',') t')) where
  closed := by
    have hcomma := h.closed.separated (c := ',') (by decide) "" rfl
    have hall := hcomma.separated (c := ' ') (by decide) s' h'.closed
    simpa [String.append_assoc] using hall
  tokens_eq := by
    have hcomma := h.closed.separated (c := ',') (by decide) "" rfl
    have hcut := tokens_separated h.closed (c := ',') (by decide) ""
    have hall := tokens_separated hcomma (c := ' ') (by decide) s'
    have hsymbols : separatorTokens ',' = [.symbol ','] ∧ separatorTokens ' ' = [] := by decide
    have hempty : tokens "" = [] := rfl
    rw [hcut, hsymbols.1, hsymbols.2, hempty, h.tokens_eq, h'.tokens_eq] at hall
    simpa [Trees.tokens, String.append_assoc] using hall
  plain := h.plain.append ⟨by decide, h'.plain⟩

end Spells

/-! ## Reading -/

def andToken : Token := .word ['A', 'N', 'D']

def orToken : Token := .word ['O', 'R']

def Token.compares : Token → Bool
  | .symbol c => c == '<' || c == '>' || c == '=' || c == '!'
  | _ => false

/-- The token can stand in an operand outside of groups. -/
def Token.isOperandPart (t : Token) : Bool := !t.compares && t != andToken && t != orToken

/-- A token, or a group with what it says as a condition. -/
inductive Item where
  | leaf (t : Token)
  | group (b : Bracket) (inner : List Token) (holds : Bool)
  deriving Repr, DecidableEq

namespace Item

def tokens : Item → List Token
  | leaf t => [t]
  | group b inner _ => b.opening :: (inner ++ [b.closing])

def isToken (t : Token) : Item → Bool
  | leaf t' => t' == t
  | group _ _ _ => false

def compares : Item → Bool
  | leaf t => t.compares
  | group _ _ _ => false

/-- The operator that items begin with, and the rest. -/
def operator? : List Item → Option (Sql.Operator × List Item)
  | leaf (.symbol '>') :: leaf (.symbol '=') :: rest => some (.ge, rest)
  | leaf (.symbol '<') :: leaf (.symbol '=') :: rest => some (.le, rest)
  | leaf (.symbol '<') :: leaf (.symbol '>') :: rest => some (.ne, rest)
  | leaf (.symbol '!') :: leaf (.symbol '=') :: rest => some (.differs, rest)
  | leaf (.symbol '>') :: rest => some (.gt, rest)
  | leaf (.symbol '<') :: rest => some (.lt, rest)
  | leaf (.symbol '=') :: rest => some (.eq, rest)
  | _ => none

end Item

/-- The integer that tokens write. -/
def readInteger? : List Token → Option Int
  | [.word cs] => if cs.all Char.isDigit then some (Nat.ofDigitChars 10 cs 0) else none
  | [.symbol '-', .word cs] =>
    if cs.all Char.isDigit then some (-Nat.ofDigitChars 10 cs 0 : Int) else none
  | _ => none

/-- The tokens between two parts. -/
def between? (pre post ts : List Token) : Option (List Token) :=
  let middle := (ts.drop pre.length).take (ts.length - pre.length - post.length)
  if ts = pre ++ middle ++ post then some middle else none

/-- The words of an engine for the present day, before and behind a number of days from it, and
before and behind a written point in time. -/
structure TimeWords where
  today : List Token
  daysBefore : List Token
  daysBehind : List Token
  timeBefore : List Token
  timeBehind : List Token

def timeWords : Sql.Dialect → TimeWords
  | .athena => {
      today := [.word "CURRENT_DATE".toList]
      daysBefore := [.word "DATE_ADD".toList, .symbol '(', .quoted .single "day".toList, .symbol ',']
      daysBehind := [.symbol ',', .word "CURRENT_DATE".toList, .symbol ')']
      timeBefore := [.word "TIMESTAMP".toList]
      timeBehind := [] }
  | .snowflake => {
      today := [.word "CURRENT_DATE".toList, .symbol '(', .symbol ')']
      daysBefore := [.word "DATEADD".toList, .symbol '(', .word "day".toList, .symbol ',']
      daysBehind := [.symbol ',', .word "CURRENT_DATE".toList, .symbol '(', .symbol ')', .symbol ')']
      timeBefore := [.word "TO_TIMESTAMP".toList, .symbol '(']
      timeBehind := [.symbol ')'] }

/-- The point in time that tokens name to an engine. -/
def readMoment? (d : Sql.Dialect) (ts : List Token) : Option Sql.Moment :=
  let words := timeWords d
  match between? words.daysBefore words.daysBehind ts with
  | some days => (readInteger? days).map .daysFromToday
  | none =>
    match between? words.timeBefore words.timeBehind ts with
    | some [.quoted .single time] => some (.at (String.ofList time))
    | some _ => none
    | none => if ts = words.today then some .today else none

/-- What there is to know of a row: the points in time that operands hold, and which conditions of
other kinds hold. -/
structure Facts where
  calendar : Calendar
  time : List Token → Option ℚ
  holds : List Token → Bool

namespace Facts

variable (f : Facts) (d : Sql.Dialect)

/-- The operand, the operator and the written point in time of a comparison with one. -/
def comparison? (xs : List Item) : Option (List Token × Sql.Operator × ℚ) := do
  let (o, rest) ← Item.operator? (xs.dropWhile (!·.compares))
  let m ← readMoment? d (rest.flatMap Item.tokens)
  let y ← f.calendar.timeOfMoment? m
  return ((xs.takeWhile (!·.compares)).flatMap Item.tokens, o, y)

/-- Whether a part without AND and OR holds. -/
def factor (xs : List Item) : Bool :=
  match xs with
  | [.group .round _ holds] => holds
  | _ =>
    match f.comparison? d xs with
    | some (operand, o, y) => (f.time operand).any fun x => o.compare x y
    | none => xs.flatMap Item.tokens == tokens "TRUE" || f.holds (xs.flatMap Item.tokens)

/-- Whether some part between ORs holds, all parts between its ANDs. -/
def meaning (xs : List Item) : Bool :=
  (xs.splitOnP (Item.isToken orToken)).any fun ys =>
    (ys.splitOnP (Item.isToken andToken)).all (f.factor d)

def items : Trees → List Item
  | .nil => []
  | .leaf t rest => .leaf t :: items rest
  | .group b inner rest => .group b inner.tokens (f.meaning d (items inner)) :: items rest

/-- The row is kept by a condition as an engine reads it. -/
def reads (s : String) : Bool :=
  match Trees.ofTokens (tokens s) with
  | some t => f.meaning d (f.items d t)
  | none => false

end Facts

/-! ## What is read of texts that are put together -/

namespace Trees

/-- The tokens outside of all groups. -/
def tops : Trees → List Token
  | nil => []
  | leaf t rest => t :: rest.tops
  | group _ _ rest => rest.tops

@[simp] theorem tops_append (t u : Trees) : (t.append u).tops = t.tops ++ u.tops := by
  induction t with
  | nil => rfl
  | leaf t rest ih => simp [append, tops, ih]
  | group b inner rest _ ih => exact ih

end Trees

namespace Facts

variable (f : Facts) (d : Sql.Dialect)

@[simp] theorem items_append (t u : Trees) :
    f.items d (t.append u) = f.items d t ++ f.items d u := by
  induction t with
  | nil => rfl
  | leaf t rest ih => exact congrArg (.leaf t :: ·) ih
  | group b inner rest _ ih =>
    exact congrArg (.group b inner.tokens (f.meaning d (f.items d inner)) :: ·) ih

theorem flatMap_tokens_items (t : Trees) : (f.items d t).flatMap Item.tokens = t.tokens := by
  induction t with
  | nil => rfl
  | leaf t rest ih => rw [items, List.flatMap_cons, ih]; rfl
  | group b inner rest _ ih =>
    rw [items, List.flatMap_cons, ih]
    simp [Item.tokens, Trees.tokens]

theorem isToken_of_not_mem_tops {w : Token} {t : Trees} (h : w ∉ t.tops) :
    ∀ x ∈ f.items d t, x.isToken w = false := by
  induction t with
  | nil => exact List.forall_mem_nil _
  | leaf t rest ih =>
    rw [Trees.tops, List.mem_cons, not_or] at h
    rw [items, List.forall_mem_cons]
    exact ⟨beq_eq_false_iff_ne.mpr (Ne.symm h.1), ih h.2⟩
  | group b inner rest _ ih =>
    rw [items, List.forall_mem_cons]
    exact ⟨rfl, ih h⟩

theorem meaning_or (xs ys : List Item) :
    f.meaning d (xs ++ .leaf orToken :: ys) = (f.meaning d xs || f.meaning d ys) := by
  rw [meaning, List.splitOnP_append_cons _ _ (by decide), List.any_append]
  rfl

theorem meaning_of_no_or {xs : List Item} (h : ∀ x ∈ xs, x.isToken orToken = false) :
    f.meaning d xs = (xs.splitOnP (Item.isToken andToken)).all (f.factor d) := by
  rw [meaning, List.splitOnP_eq_singleton h, List.any_cons, List.any_nil, Bool.or_false]

theorem meaning_and {xs ys : List Item} (hx : ∀ x ∈ xs, x.isToken orToken = false)
    (hy : ∀ y ∈ ys, y.isToken orToken = false) :
    f.meaning d (xs ++ .leaf andToken :: ys) = (f.meaning d xs && f.meaning d ys) := by
  have hall : ∀ x ∈ xs ++ .leaf andToken :: ys, x.isToken orToken = false := by
    intro x hx'
    rcases List.mem_append.mp hx' with hmem | hmem
    · exact hx x hmem
    · rcases List.mem_cons.mp hmem with rfl | hmem
      · decide
      · exact hy x hmem
  rw [f.meaning_of_no_or d hall, f.meaning_of_no_or d hx, f.meaning_of_no_or d hy,
    List.splitOnP_append_cons _ _ (by decide), List.all_append]

theorem meaning_of_no_word {xs : List Item} (hor : ∀ x ∈ xs, x.isToken orToken = false)
    (hand : ∀ x ∈ xs, x.isToken andToken = false) : f.meaning d xs = f.factor d xs := by
  rw [f.meaning_of_no_or d hor, List.splitOnP_eq_singleton hand, List.all_cons, List.all_nil,
    Bool.and_true]

theorem spells_or : Spells "OR" (.leaf orToken .nil) := ⟨rfl, by decide, by decide, trivial⟩

theorem spells_and : Spells "AND" (.leaf andToken .nil) := ⟨rfl, by decide, by decide, trivial⟩

section Texts

variable {f d} {s s' : String} {t t' : Trees} (h : Spells s t) (h' : Spells s' t')
include h

theorem reads_eq : f.reads d s = f.meaning d (f.items d t) := by
  rw [reads, h.ofTokens_eq]

theorem reads_paren : f.reads d ("(" ++ s ++ ")") = f.reads d s := by
  rw [reads_eq h, reads_eq h.paren]
  exact f.meaning_of_no_word d (by simp [items, Item.isToken]) (by simp [items, Item.isToken])

include h'

theorem reads_or : f.reads d (s ++ " " ++ "OR" ++ " " ++ s') = (f.reads d s || f.reads d s') := by
  have hall := (h.blank spells_or).blank h'
  rw [reads_eq h, reads_eq h', reads_eq hall, items_append, items_append, List.append_assoc]
  exact f.meaning_or d _ _

/-- AND joins two texts that have no OR of their own. -/
theorem reads_and (hor : orToken ∉ t.tops) (hor' : orToken ∉ t'.tops) :
    f.reads d (s ++ " " ++ "AND" ++ " " ++ s') = (f.reads d s && f.reads d s') := by
  have hall := (h.blank spells_and).blank h'
  rw [reads_eq h, reads_eq h', reads_eq hall, items_append, items_append, List.append_assoc]
  exact f.meaning_and d (f.isToken_of_not_mem_tops d hor) (f.isToken_of_not_mem_tops d hor')

end Texts

end Facts

end LearningReports.Text
