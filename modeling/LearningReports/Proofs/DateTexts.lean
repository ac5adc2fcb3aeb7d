import LearningReports.Proofs.AlikeTexts
import LearningReports.Proofs.ReadConditions
import LearningReports.Sql.Branch

/-! # Date options as texts

What the text of several date options says when an engine reads it, alone and behind a chain of
other conditions. -/
namespace LearningReports.Text

open Sql (Dialect Moment Operator)

/-! ## Written points in time -/

theorem ofChar?_of_isWordChar {c : Char} (h : isWordChar c = true) : Mark.ofChar? c = none := by
  have hsingle : c ≠ '\'' := by
    rintro rfl
    cases h
  have hdouble : c ≠ '"' := by
    rintro rfl
    cases h
  rw [Mark.ofChar?, if_neg hsingle, if_neg hdouble]

theorem run_word (done : List Token) (word : List Char) {cs : List Char}
    (h : ∀ c ∈ cs, isWordChar c = true) :
    Scan.run ⟨done, .plain word⟩ cs = ⟨done, .plain (word ++ cs)⟩ := by
  induction cs generalizing word with
  | nil => simp [Scan.run]
  | cons c cs ih =>
    have hc := h c List.mem_cons_self
    have hstep : Scan.step ⟨done, .plain word⟩ c = ⟨done, .plain (word ++ [c])⟩ := by
      rw [Scan.step]
      dsimp only
      rw [Scan.stepPlain, ofChar?_of_isWordChar hc]
      exact if_pos hc
    change Scan.run (Scan.step ⟨done, .plain word⟩ c) cs = _
    rw [hstep, ih _ fun x hx => h x (List.mem_cons_of_mem _ hx)]
    simp

theorem isWordChar_of_isDigit {c : Char} (h : c.isDigit = true) : isWordChar c = true := by
  simp [isWordChar, Char.isAlphanum, h]

def numberTrees : Int → Trees
  | .ofNat n => .leaf (.word (Nat.toDigits 10 n)) .nil
  | .negSucc n => .leaf (.symbol '-') (.leaf (.word (Nat.toDigits 10 n.succ)) .nil)

theorem spells_repr (n : Nat) : Spells n.repr (.leaf (.word (Nat.toDigits 10 n)) .nil) := by
  have hdigit : ∀ c ∈ Nat.toDigits 10 n, c.isDigit = true := fun c hc =>
    Nat.isDigit_of_mem_toDigits (by decide) (by decide) hc
  have hrun : Scan.run {} n.repr.toList = ⟨[], .plain (Nat.toDigits 10 n)⟩ := by
    rw [Nat.toList_repr]
    exact run_word [] [] fun c hc => isWordChar_of_isDigit (hdigit c hc)
  have hletter (c : Char) (cs : List Char) (hc : c.isDigit = false) :
      Nat.toDigits 10 n ≠ c :: cs := by
    intro h
    have hyes := hdigit c (h ▸ List.mem_cons_self)
    rw [hc] at hyes
    cases hyes
  refine ⟨?_, ?_, ?_, trivial⟩
  · rw [Closed, hrun]
    rfl
  · have hne : Nat.toDigits 10 n ≠ [] := Nat.toDigits_ne_nil
    rw [tokens, hrun, Scan.finish]
    cases hcs : Nat.toDigits 10 n with
    | nil => exact absurd hcs hne
    | cons c cs => rfl
  · have hcase := hletter 'C' ['A', 'S', 'E'] (by decide)
    have hend := hletter 'E' ['N', 'D'] (by decide)
    simp [Token.edge, Bracket.opening, Bracket.closing, hcase, hend]

theorem spells_number (n : Int) : Spells (toString n) (numberTrees n) := by
  cases n with
  | ofNat n => exact spells_repr n
  | negSucc n =>
    have h := spells_repr n.succ
    have hminus : Closed "" := rfl
    refine ⟨hminus.separated (c := '-') (by decide) _ h.closed, ?_, ?_, h.plain⟩
    · have hcut := tokens_separated hminus (c := '-') (by decide) n.succ.repr
      rw [h.tokens_eq] at hcut
      exact hcut
    · decide

theorem readInteger?_numberTrees (n : Int) : readInteger? (numberTrees n).tokens = some n := by
  have hall (n : Nat) : (Nat.toDigits 10 n).all Char.isDigit = true :=
    List.all_eq_true.mpr fun c hc => Nat.isDigit_of_mem_toDigits (by decide) (by decide) hc
  cases n with
  | ofNat n =>
    change (if (Nat.toDigits 10 n).all Char.isDigit = true then _ else _) = _
    rw [if_pos (hall n), Nat.ofDigitChars_ten_toDigits]
    rfl
  | negSucc n =>
    change (if (Nat.toDigits 10 n.succ).all Char.isDigit = true then _ else _) = _
    rw [if_pos (hall n.succ), Nat.ofDigitChars_ten_toDigits]
    rfl

theorem spells_quoted {time : String} (h : '\'' ∉ time.toList) :
    Spells ("'" ++ time ++ "'") (.leaf (.quoted .single time.toList) .nil) := by
  have hrun : Scan.run {} ("'" ++ time ++ "'").toList = ⟨[], .closing .single time.toList⟩ := by
    have hinside := run_doubled .single [] [] time.toList
    rw [show Mark.single.char = '\'' from rfl, doubled_of_not_mem h] at hinside
    have hlist : ("'" ++ time ++ "'").toList = '\'' :: (time.toList ++ ['\'']) := by simp
    rw [hlist]
    change Scan.run ⟨[], .inside .single []⟩ (time.toList ++ ['\'']) = _
    rw [Scan.run_append, hinside]
    rfl
  refine ⟨?_, ?_, ?_, trivial⟩
  · rw [Closed, hrun]
    rfl
  · rw [tokens, hrun]
    rfl
  · simp [Token.edge, Bracket.opening, Bracket.closing]

def word (w : String) : Trees := .leaf (.word w.toList) .nil

/-- The trees of a point in time in the words of an engine. -/
def momentTrees : Dialect → Moment → Trees
  | _, .now => .nil
  | .athena, .today => word "CURRENT_DATE"
  | .snowflake, .today => (word "CURRENT_DATE").append (.group .round .nil .nil)
  | .athena, .daysFromToday n => (word "DATE_ADD").append (.group .round
      (((Trees.leaf (.quoted .single "day".toList) .nil).append
        (.leaf (.symbol ',') (numberTrees n))).append
          (.leaf (.symbol ',') (word "CURRENT_DATE"))) .nil)
  | .snowflake, .daysFromToday n => (word "DATEADD").append (.group .round
      (((word "day").append (.leaf (.symbol ',') (numberTrees n))).append
        (.leaf (.symbol ',') ((word "CURRENT_DATE").append (.group .round .nil .nil)))) .nil)
  | .athena, .at time => (word "TIMESTAMP").append (.leaf (.quoted .single time.toList) .nil)
  | .snowflake, .at time => (word "TO_TIMESTAMP").append (.group .round
      (.leaf (.quoted .single time.toList) .nil) .nil)

theorem spells_moment (d : Dialect) {m : Moment} (h : m.IsWritten) :
    Spells (d.moment m) (momentTrees d m) := by
  have hdate : Spells "CURRENT_DATE" (word "CURRENT_DATE") := ⟨rfl, by decide, by decide, trivial⟩
  have hcall : Spells "CURRENT_DATE()" ((word "CURRENT_DATE").append (.group .round .nil .nil)) :=
    hdate.call Spells.empty
  cases m with
  | now => cases h
  | today =>
    cases d with
    | athena => exact hdate
    | snowflake => exact hcall
  | daysFromToday n =>
    cases d with
    | athena =>
      have hname : Spells "DATE_ADD" (word "DATE_ADD") := ⟨rfl, by decide, by decide, trivial⟩
      have hunit : Spells "'day'" (.leaf (.quoted .single "day".toList) .nil) :=
        ⟨by decide, by decide, by decide, trivial⟩
      have hbefore : "DATE_ADD('day', " = "DATE_ADD" ++ "(" ++ "'day'" ++ ", " := by decide
      have hbehind : ", CURRENT_DATE)" = ", " ++ "CURRENT_DATE" ++ ")" := by decide
      have hall := hname.call ((hunit.comma (spells_number n)).comma hdate)
      change Spells ("DATE_ADD('day', " ++ toString n ++ ", CURRENT_DATE)") _
      rw [hbefore, hbehind]
      simp only [String.append_assoc] at hall ⊢
      exact hall
    | snowflake =>
      have hname : Spells "DATEADD" (word "DATEADD") := ⟨rfl, by decide, by decide, trivial⟩
      have hunit : Spells "day" (word "day") := ⟨rfl, by decide, by decide, trivial⟩
      have hbefore : "DATEADD(day, " = "DATEADD" ++ "(" ++ "day" ++ ", " := by decide
      have hbehind : ", CURRENT_DATE())" = ", " ++ "CURRENT_DATE()" ++ ")" := by decide
      have hall := hname.call ((hunit.comma (spells_number n)).comma hcall)
      change Spells ("DATEADD(day, " ++ toString n ++ ", CURRENT_DATE())") _
      rw [hbefore, hbehind]
      simp only [String.append_assoc] at hall ⊢
      exact hall
  | «at» time =>
    cases d with
    | athena =>
      have hname : Spells "TIMESTAMP" (word "TIMESTAMP") := ⟨rfl, by decide, by decide, trivial⟩
      have hbefore : "TIMESTAMP '" = "TIMESTAMP" ++ " " ++ "'" := by decide
      have hall := hname.blank (spells_quoted h)
      change Spells ("TIMESTAMP '" ++ time ++ "'") _
      rw [hbefore]
      simp only [String.append_assoc] at hall ⊢
      exact hall
    | snowflake =>
      have hname : Spells "TO_TIMESTAMP" (word "TO_TIMESTAMP") :=
        ⟨rfl, by decide, by decide, trivial⟩
      have hbefore : "TO_TIMESTAMP('" = "TO_TIMESTAMP" ++ "(" ++ "'" := by decide
      have hbehind : "')" = "'" ++ ")" := by decide
      have hall := hname.call (spells_quoted h)
      change Spells ("TO_TIMESTAMP('" ++ time ++ "')") _
      rw [hbefore, hbehind]
      simp only [String.append_assoc] at hall ⊢
      exact hall

theorem between?_append (pre middle post : List Token) :
    between? pre post (pre ++ middle ++ post) = some middle := by
  have hdrop : (pre ++ middle ++ post).drop pre.length = middle ++ post := by
    rw [List.append_assoc, List.drop_left]
  have hlength : (pre ++ middle ++ post).length - pre.length - post.length = middle.length := by
    simp only [List.length_append]
    omega
  unfold between?
  dsimp only
  rw [hdrop, hlength, List.take_left, if_pos rfl]

theorem between?_eq_none {pre post ts : List Token} {t : Token} (hpre : pre.head? = some t)
    (hts : ts.head? ≠ some t) : between? pre post ts = none := by
  unfold between?
  dsimp only
  split
  · next heq =>
    rw [heq, List.append_assoc, List.head?_append, hpre] at hts
    exact absurd rfl hts
  · rfl

/-- An engine reads its own words for a point in time. -/
theorem readMoment?_momentTrees (d : Dialect) {m : Moment} (h : m.IsWritten) :
    readMoment? d (momentTrees d m).tokens = some m := by
  cases m with
  | now => cases h
  | today => cases d <;> decide
  | daysFromToday n =>
    have hsplit : (momentTrees d (.daysFromToday n)).tokens =
        (timeWords d).daysBefore ++ (numberTrees n).tokens ++ (timeWords d).daysBehind := by
      cases d <;> simp [momentTrees, timeWords, word, Trees.append, Trees.tokens, Bracket.opening,
        Bracket.closing]
    rw [readMoment?, hsplit, between?_append]
    simp [readInteger?_numberTrees]
  | «at» time =>
    have hsplit : (momentTrees d (.at time)).tokens =
        (timeWords d).timeBefore ++ [.quoted .single time.toList] ++ (timeWords d).timeBehind := by
      cases d <;> rfl
    have hdays : between? (timeWords d).daysBefore (timeWords d).daysBehind
        (momentTrees d (.at time)).tokens = none := by
      cases d with
      | athena =>
        exact between?_eq_none rfl (by simp [momentTrees, word, Trees.append, Trees.tokens])
      | snowflake =>
        exact between?_eq_none rfl (by simp [momentTrees, word, Trees.append, Trees.tokens])
    rw [readMoment?]
    simp only [hdays]
    rw [hsplit, between?_append]
    simp

/-! ## Comparisons -/

def operatorTrees : Operator → Trees
  | .ge => .leaf (.symbol '>') (.leaf (.symbol '=') .nil)
  | .le => .leaf (.symbol '<') (.leaf (.symbol '=') .nil)
  | .lt => .leaf (.symbol '<') .nil
  | _ => .nil

theorem spells_operator : ∀ o ∈ Operator.bounding, Spells o.text (operatorTrees o) := by
  simp only [Operator.bounding, List.forall_mem_cons]
  exact ⟨⟨rfl, by decide, by decide, by decide, trivial⟩, ⟨rfl, by decide, by decide, by decide,
    trivial⟩, ⟨rfl, by decide, by decide, trivial⟩, List.forall_mem_nil _⟩

theorem tops_operatorTrees (o : Operator) :
    ∀ x ∈ (operatorTrees o).tops, x ≠ andToken ∧ x ≠ orToken := by
  cases o <;> decide

theorem tops_momentTrees (d : Dialect) (m : Moment) :
    ∀ x ∈ (momentTrees d m).tops, x.isOperandPart = true := by
  cases d <;> cases m <;>
    simp [momentTrees, word, Trees.append, Trees.tops, Token.isOperandPart, Token.compares,
      andToken, orToken]

theorem isOperandPart_iff {x : Token} :
    x.isOperandPart = true ↔ x.compares = false ∧ x ≠ andToken ∧ x ≠ orToken := by
  simp [Token.isOperandPart, and_assoc]

namespace Facts

variable {f : Facts} {d : Dialect}

theorem factor_of_comparison {xs : List Item} {operand : List Token} {o : Operator} {y : ℚ}
    (h : f.comparison? d xs = some (operand, o, y)) :
    f.factor d xs = (f.time operand).any fun x => o.compare x y := by
  unfold factor
  split
  · -- A group alone compares nothing.
    cases h
  · rw [h]

theorem compares_of_tops {t : Trees} (h : ∀ x ∈ t.tops, x.isOperandPart = true) :
    ∀ x ∈ f.items d t, (!x.compares) = true := by
  induction t with
  | nil => exact List.forall_mem_nil _
  | leaf t rest ih =>
    rw [Trees.tops, List.forall_mem_cons] at h
    rw [items, List.forall_mem_cons]
    have hcompares := (isOperandPart_iff.mp h.1).1
    exact ⟨by simp [Item.compares, hcompares], ih h.2⟩
  | group b inner rest _ ih =>
    rw [items, List.forall_mem_cons]
    exact ⟨rfl, ih h⟩

theorem comparison?_items {t : Trees} {o : Operator} {m : Moment} {y : ℚ}
    (ht : ∀ x ∈ t.tops, x.isOperandPart = true) (ho : o ∈ Operator.bounding) (hm : m.IsWritten)
    (hy : f.calendar.timeOfMoment? m = some y) :
    f.comparison? d (f.items d t ++ (f.items d (operatorTrees o) ++ f.items d (momentTrees d m))) =
      some (t.tokens, o, y) := by
  have hoperand := compares_of_tops (f := f) (d := d) ht
  have htake : (f.items d (operatorTrees o) ++ f.items d (momentTrees d m)).takeWhile
      (!·.compares) = [] := by
    simp only [Operator.bounding, List.mem_cons, List.not_mem_nil, or_false] at ho
    rcases ho with rfl | rfl | rfl <;> rfl
  have hdrop : (f.items d (operatorTrees o) ++ f.items d (momentTrees d m)).dropWhile
      (!·.compares) = f.items d (operatorTrees o) ++ f.items d (momentTrees d m) := by
    simp only [Operator.bounding, List.mem_cons, List.not_mem_nil, or_false] at ho
    rcases ho with rfl | rfl | rfl <;> rfl
  have hoperator : Item.operator? (f.items d (operatorTrees o) ++ f.items d (momentTrees d m)) =
      some (o, f.items d (momentTrees d m)) := by
    simp only [Operator.bounding, List.mem_cons, List.not_mem_nil, or_false] at ho
    rcases ho with rfl | rfl | rfl
    · rfl
    · rfl
    · cases d <;> cases m <;> rfl
  rw [comparison?, List.dropWhile_append_of_pos hoperand, List.takeWhile_append_of_pos hoperand,
    htake, hdrop, hoperator, List.append_nil, flatMap_tokens_items]
  simp [flatMap_tokens_items, readMoment?_momentTrees d hm, hy]

/-- The text of a comparison compares what the operand holds. -/
theorem reads_comparison {s : String} {t : Trees} {o : Operator} {m : Moment} {y : ℚ}
    (h : Spells s t) (ht : ∀ x ∈ t.tops, x.isOperandPart = true) (ho : o ∈ Operator.bounding)
    (hm : m.IsWritten) (hy : f.calendar.timeOfMoment? m = some y) :
    f.reads d (s ++ " " ++ o.text ++ " " ++ d.moment m) =
      (f.time (tokens s)).any fun x => o.compare x y := by
  have hall := (h.blank (spells_operator o ho)).blank (spells_moment d hm)
  have htops : ∀ x ∈ ((t.append (operatorTrees o)).append (momentTrees d m)).tops,
      x ≠ andToken ∧ x ≠ orToken := by
    intro x hx
    rw [Trees.tops_append, Trees.tops_append] at hx
    rcases List.mem_append.mp hx with hx | hx
    · rcases List.mem_append.mp hx with hx | hx
      · exact (isOperandPart_iff.mp (ht x hx)).2
      · exact tops_operatorTrees o x hx
    · exact (isOperandPart_iff.mp (tops_momentTrees d m x hx)).2
  have hand := f.isToken_of_not_mem_tops d fun hmem => (htops andToken hmem).1 rfl
  have hor := f.isToken_of_not_mem_tops d fun hmem => (htops orToken hmem).2 rfl
  rw [reads_eq hall, f.meaning_of_no_word d hor hand, items_append, items_append,
    List.append_assoc, factor_of_comparison (comparison?_items ht ho hm hy), h.tokens_eq]

end Facts

end LearningReports.Text

namespace LearningReports

open Sql (Dialect Expr Moment Operator)
open Text (Facts Spells Trees andToken orToken)

/-- The text can stand between ANDs: it closes its quotes and its brackets, and no OR stands outside
of them. -/
def Text.IsChain (s : String) : Prop := ∃ t, Spells s t ∧ orToken ∉ t.tops

/-- The text can be compared: moreover no AND and no comparison stands outside of its brackets. -/
def Text.IsOperand (s : String) : Prop :=
  ∃ t, Spells s t ∧ ∀ x ∈ t.tops, x.isOperandPart = true

namespace DateFilter

open Text (IsChain IsOperand)

/-! ## Conditions put together -/

section Joined

variable {f : Facts} {d : Dialect} {e : Expr} {es : List Expr}

theorem isChain_paren {t : Trees} (h : Spells (d.render e) t) : IsChain (d.render (.paren e)) :=
  ⟨_, h.paren, List.not_mem_nil⟩

theorem isChain_and {s s' : String} (h : IsChain s) (h' : IsChain s') :
    IsChain (s ++ " " ++ "AND" ++ " " ++ s') := by
  obtain ⟨t, hs, hor⟩ := h
  obtain ⟨t', hs', hor'⟩ := h'
  refine ⟨_, (hs.blank Facts.spells_and).blank hs', ?_⟩
  have hword : orToken ≠ andToken := by decide
  simp [Trees.tops, hor, hor', hword]

theorem isChain_joined_and (he : IsChain (d.render e)) (hes : ∀ x ∈ es, IsChain (d.render x)) :
    IsChain (d.render (.joined .and e es)) := by
  induction es generalizing e with
  | nil => exact he
  | cons x es ih =>
    rw [List.forall_mem_cons] at hes
    exact ih (e := .op .and e x) (isChain_and he hes.1) hes.2

theorem reads_joined_and (he : IsChain (d.render e)) (hes : ∀ x ∈ es, IsChain (d.render x)) :
    f.reads d (d.render (.joined .and e es)) = true ↔
      ∀ x ∈ e :: es, f.reads d (d.render x) = true := by
  induction es generalizing e with
  | nil => simp [Expr.joined]
  | cons x es ih =>
    rw [List.forall_mem_cons] at hes
    have hboth : IsChain (d.render (.op .and e x)) := isChain_and he hes.1
    have hreads : f.reads d (d.render (.op .and e x)) =
        (f.reads d (d.render e) && f.reads d (d.render x)) := by
      obtain ⟨t, ht, hor⟩ := he
      obtain ⟨t', ht', hor'⟩ := hes.1
      exact Facts.reads_and ht ht' hor hor'
    rw [Expr.joined, ih hboth hes.2]
    simp [hreads, and_assoc]

theorem spells_joined_or {t : Trees} (he : Spells (d.render e) t)
    (hes : ∀ x ∈ es, IsChain (d.render x)) : ∃ t', Spells (d.render (.joined .or e es)) t' := by
  induction es generalizing e t with
  | nil => exact ⟨t, he⟩
  | cons x es ih =>
    rw [List.forall_mem_cons] at hes
    obtain ⟨⟨t', ht', -⟩, hrest⟩ := hes
    exact ih (e := .op .or e x) ((he.blank Facts.spells_or).blank ht') hrest

theorem reads_joined_or {t : Trees} (he : Spells (d.render e) t)
    (hes : ∀ x ∈ es, IsChain (d.render x)) :
    f.reads d (d.render (.joined .or e es)) = true ↔
      ∃ x ∈ e :: es, f.reads d (d.render x) = true := by
  induction es generalizing e t with
  | nil => simp [Expr.joined]
  | cons x es ih =>
    rw [List.forall_mem_cons] at hes
    obtain ⟨⟨t', ht', -⟩, hrest⟩ := hes
    have hboth : Spells (d.render (.op .or e x)) _ := (he.blank Facts.spells_or).blank ht'
    have hreads : f.reads d (d.render (.op .or e x)) =
        (f.reads d (d.render e) || f.reads d (d.render x)) := Facts.reads_or he ht'
    rw [Expr.joined, ih hboth hrest]
    simp [hreads, or_assoc]

theorem isChain_parens (hes : ∀ x ∈ es, IsChain (d.render x)) :
    ∀ x ∈ es.map Expr.paren, IsChain (d.render x) := by
  intro x hx
  obtain ⟨y, hy, rfl⟩ := List.mem_map.mp hx
  obtain ⟨t, ht, -⟩ := hes y hy
  exact isChain_paren ht

/-- Several conditions made one can be read, and hold as they should together. -/
theorem reads_combine {how : DateConditions} (hes : ∀ x ∈ es, IsChain (d.render x))
    (he : combine how es = some e) :
    IsChain (d.render e) ∧
      (f.reads d (d.render e) = true ↔ how.Among (fun x => f.reads d (d.render x) = true) es) := by
  cases es with
  | nil => cases he
  | cons a as =>
    cases he
    have hfirst : IsChain (d.render (.paren a)) :=
      isChain_parens hes _ (List.mem_map_of_mem List.mem_cons_self)
    have hparens := isChain_parens fun x hx => hes x (List.mem_cons_of_mem a hx)
    have hsame : ∀ x ∈ a :: as, f.reads d (d.render (.paren x)) = f.reads d (d.render x) := by
      intro x hx
      obtain ⟨t, ht, -⟩ := hes x hx
      exact Facts.reads_paren ht
    have hmap : Expr.paren a :: as.map .paren = (a :: as).map .paren := rfl
    cases how with
    | all =>
      obtain ⟨t, ht, -⟩ := isChain_joined_and hfirst hparens
      refine ⟨isChain_paren ht, ?_⟩
      change f.reads d ("(" ++ d.render (.joined .and (.paren a) (as.map .paren)) ++ ")") = true ↔ _
      rw [Facts.reads_paren ht, reads_joined_and hfirst hparens, hmap, List.forall_mem_map]
      exact forall₂_congr fun x hx => by rw [hsame x hx]
    | atLeastOne =>
      obtain ⟨t, ht, -⟩ := hfirst
      obtain ⟨t', ht'⟩ := spells_joined_or ht hparens
      refine ⟨isChain_paren ht', ?_⟩
      change f.reads d ("(" ++ d.render (.joined .or (.paren a) (as.map .paren)) ++ ")") = true ↔ _
      rw [Facts.reads_paren ht', reads_joined_or ht hparens, hmap]
      simp only [List.mem_map, exists_exists_and_eq_and]
      have hany : (∃ x ∈ a :: as, f.reads d (d.render (.paren x)) = true) ↔
          ∃ x ∈ a :: as, f.reads d (d.render x) = true :=
        exists_congr fun x => and_congr_right fun hx => by rw [hsame x hx]
      rw [hany]
      exact ⟨fun h _ => h, fun h => h (List.cons_ne_nil _ _)⟩

end Joined

/-! ## Date options -/

def text (d : Dialect) (how : DateConditions) (pairs : List Dated) : String :=
  ((combined? how pairs).map d.render).getD ""

/-- The same behind a chain of conditions, with its leading operator. -/
def clauseText (d : Dialect) (how : DateConditions) (pairs : List Dated) : String :=
  ((combined? how pairs).map fun e => " " ++ d.renderRestriction (.and e)).getD ""

/-- The point in time that a column holds, as the facts about the row say. -/
def timeOf (f : Facts) (d : Dialect) (column : Expr) : Option ℚ :=
  f.time (Text.tokens (d.render column))

section Meaning

variable {f : Facts} {d : Dialect} {column : Expr}

theorem isChain_of_isOperand {s : String} (h : IsOperand s) : IsChain s := by
  obtain ⟨t, ht, htops⟩ := h
  exact ⟨t, ht, fun hmem => (Text.isOperandPart_iff.mp (htops _ hmem)).2.2 rfl⟩

theorem isChain_compareWith (hcolumn : IsOperand (d.render column)) {b : Operator × Moment}
    (hb : DateOption.IsBound b) : IsChain (d.render (DateOption.compareWith column b)) := by
  obtain ⟨t, ht, htops⟩ := isChain_of_isOperand hcolumn
  refine ⟨_, (ht.blank (Text.spells_operator b.1 hb.1)).blank (Text.spells_moment d hb.2), ?_⟩
  intro hmem
  rw [Trees.tops_append, Trees.tops_append] at hmem
  rcases List.mem_append.mp hmem with hmem | hmem
  · rcases List.mem_append.mp hmem with hmem | hmem
    · exact htops hmem
    · exact (Text.tops_operatorTrees b.1 _ hmem).2 rfl
  · exact (Text.isOperandPart_iff.mp (Text.tops_momentTrees d b.2 _ hmem)).2.2 rfl

theorem reads_compareWith (hcolumn : IsOperand (d.render column)) :
    DateOption.Reads f.calendar column (timeOf f d column)
      (fun e => f.reads d (d.render e) = true) where
  all := by
    intro b bs hbs
    rw [List.forall_mem_cons] at hbs
    have hrest : ∀ x ∈ bs.map (DateOption.compareWith column), IsChain (d.render x) :=
      List.forall_mem_map.mpr fun a ha => isChain_compareWith hcolumn (hbs.2 a ha)
    rw [reads_joined_and (isChain_compareWith hcolumn hbs.1) hrest, ← List.map_cons,
      List.forall_mem_map]
  compare := by
    intro b y hb hy
    obtain ⟨t, ht, htops⟩ := hcolumn
    have hreads := Facts.reads_comparison (d := d) ht htops hb.1 hb.2 hy
    change f.reads d (d.render column ++ " " ++ b.1.text ++ " " ++ d.moment b.2) = true ↔ _
    rw [hreads, Option.any_eq_true]
    rfl

theorem isChain_condition? (hcolumn : IsOperand (d.render column)) {o : DateOption}
    (hdays : o.HasDays) {e : Expr} (he : condition? column (some o) = some e) :
    IsChain (d.render e) := by
  have hbound := DateOption.isBound_of_mem_comparisons hdays
  rw [DateOption.condition?_eq] at he
  cases hbs : o.comparisons with
  | nil =>
    rw [hbs] at he
    cases he
  | cons b bs =>
    rw [hbs] at he
    cases he
    rw [hbs, List.forall_mem_cons] at hbound
    exact isChain_joined_and (isChain_compareWith hcolumn hbound.1)
      (List.forall_mem_map.mpr fun a ha => isChain_compareWith hcolumn (hbound.2 a ha))

/-- The columns of effective options can be compared, and the bounds begin with days. -/
structure Readable (d : Dialect) (pairs : List Dated) : Prop where
  operand : ∀ p ∈ effective pairs, IsOperand (d.render p.1)
  days : ∀ p ∈ effective pairs, p.2.HasDays

/-- All effective options hold, or at least one of them where there are any. -/
def Hold (f : Facts) (d : Dialect) (how : DateConditions) (pairs : List Dated) : Prop :=
  how.Among (fun p => p.2.Holds f.calendar (timeOf f d p.1)) (effective pairs)

variable {how : DateConditions} {pairs : List Dated}

theorem reads_combined? (h : Readable d pairs) {e : Expr} (he : combined? how pairs = some e) :
    IsChain (d.render e) ∧ (f.reads d (d.render e) = true ↔ Hold f d how pairs) := by
  have hchains : ∀ x ∈ conditions pairs, IsChain (d.render x) := by
    intro x hx
    obtain ⟨p, hp, hcondition⟩ := mem_conditions hx
    exact isChain_condition? (h.operand p hp) (h.days p hp) hcondition
  obtain ⟨hchain, hreads⟩ := reads_combine (f := f) hchains he
  exact ⟨hchain, hreads.trans (among_conditions_iff h.days fun p hp =>
    reads_compareWith (h.operand p hp))⟩

theorem text_eq_empty_iff : text d how pairs = "" ↔ effective pairs = [] := by
  rw [← combined?_eq_none_iff_effective how, text]
  cases he : combined? how pairs with
  | none => simp
  | some e =>
    have hparen : ∃ x, e = .paren x := by
      unfold combined? combine at he
      split at he
      · cases he
      · cases he
        exact ⟨_, rfl⟩
    obtain ⟨x, rfl⟩ := hparen
    have hne : d.render (.paren x) ≠ "" := by
      intro hempty
      have hlist : ("(" ++ d.render x ++ ")").toList = [] := congrArg String.toList hempty
      rw [String.toList_append, List.append_eq_nil_iff] at hlist
      exact absurd hlist.2 (by decide)
    exact iff_of_false hne (Option.some_ne_none _)

theorem clauseText_eq : clauseText d how pairs =
    if effective pairs = [] then "" else " " ++ "AND" ++ " " ++ text d how pairs := by
  by_cases hnil : effective pairs = []
  · have hnone := (combined?_eq_none_iff_effective how pairs).mpr hnil
    rw [if_pos hnil, clauseText, hnone]
    rfl
  · have hsome := mt (combined?_eq_none_iff_effective how pairs).mp hnil
    obtain ⟨e, he⟩ := Option.ne_none_iff_exists'.mp hsome
    rw [if_neg hnil, clauseText, text, he]
    exact String.toList_injective (by simp [Dialect.renderRestriction])

theorem reads_text (h : Readable d pairs) (hne : effective pairs ≠ []) :
    IsChain (text d how pairs) ∧
      (f.reads d (text d how pairs) = true ↔ Hold f d how pairs) := by
  have hsome := mt (combined?_eq_none_iff_effective how pairs).mp hne
  obtain ⟨e, he⟩ := Option.ne_none_iff_exists'.mp hsome
  have htext : text d how pairs = d.render e := by rw [text, he]; rfl
  rw [htext]
  exact reads_combined? h he

theorem hold_of_effective_eq_nil (hnil : effective pairs = []) : Hold f d how pairs := by
  rw [Hold, hnil]
  cases how with
  | all => exact List.forall_mem_nil _
  | atLeastOne => exact fun hne => absurd rfl hne

/-- Behind a chain of conditions the options restrict rows further. -/
theorem reads_clauseText (h : Readable d pairs) {chain : String} (hchain : IsChain chain) :
    IsChain (chain ++ clauseText d how pairs) ∧
      (f.reads d (chain ++ clauseText d how pairs) = true ↔
        f.reads d chain = true ∧ Hold f d how pairs) := by
  rw [clauseText_eq]
  by_cases hnil : effective pairs = []
  · rw [if_pos hnil, String.append_empty]
    exact ⟨hchain, (and_iff_left (hold_of_effective_eq_nil hnil)).symm⟩
  · obtain ⟨htext, hreads⟩ : IsChain (text d how pairs) ∧
        (f.reads d (text d how pairs) = true ↔ Hold f d how pairs) := reads_text h hnil
    have heq : chain ++ (" " ++ "AND" ++ " " ++ text d how pairs) =
        chain ++ " " ++ "AND" ++ " " ++ text d how pairs := by
      simp only [String.append_assoc]
    rw [if_neg hnil, heq]
    refine ⟨isChain_and hchain htext, ?_⟩
    obtain ⟨t, ht, hor⟩ := hchain
    obtain ⟨t', ht', hor'⟩ := htext
    rw [Facts.reads_and ht ht' hor hor', Bool.and_eq_true, hreads]

theorem isChain_true : IsChain "TRUE" :=
  ⟨.leaf (.word "TRUE".toList) .nil, ⟨rfl, by decide, by decide, trivial⟩, by decide⟩

theorem reads_true : f.reads d "TRUE" = true := by
  have hspells : Spells "TRUE" (.leaf (.word "TRUE".toList) .nil) :=
    ⟨rfl, by decide, by decide, trivial⟩
  have htop : andToken ∉ (Trees.leaf (.word "TRUE".toList) .nil).tops ∧
      orToken ∉ (Trees.leaf (.word "TRUE".toList) .nil).tops := by
    decide
  have hnone : f.comparison? d [.leaf (.word "TRUE".toList)] = none := rfl
  rw [Facts.reads_eq hspells, f.meaning_of_no_word d (f.isToken_of_not_mem_tops d htop.2)
    (f.isToken_of_not_mem_tops d htop.1)]
  change f.factor d [.leaf (.word "TRUE".toList)] = true
  have htokens : Text.tokens "TRUE" = [.word "TRUE".toList] := by decide
  simp only [Facts.factor, hnone, htokens]
  rfl

theorem reads_relative (hcolumn : IsOperand (d.render column)) {t : ℚ}
    (ht : timeOf f d column = some t) {operator : String}
    (ho : operator ∈ DateOption.dayOperators) (n : Int) :
    f.reads d (text d how [(column, some (.relative operator n))]) = true ↔
      (DateOption.relative operator n).Admits f.calendar t := by
  have heffective : effective [(column, some (.relative operator n))] =
      [(column, .relative operator n)] := by
    rw [effective_cons, if_pos (DateOption.effective_relative ho n)]
    rfl
  have hreadable : Readable d [(column, some (.relative operator n))] := by
    refine ⟨?_, ?_⟩
    · rw [heffective]
      exact List.forall_mem_singleton.mpr hcolumn
    · rw [heffective]
      exact List.forall_mem_singleton.mpr ⟨nofun, nofun⟩
  have hne : effective [(column, some (.relative operator n))] ≠ [] := by simp [heffective]
  rw [(reads_text hreadable hne).2, Hold, heffective, among_singleton_iff]
  simp [DateOption.Holds, ht]

variable (f how) in
/-- Date options mean what they say: as a text of their own, and behind any chain of conditions. -/
theorem texts_hold_iff (h : Readable d pairs) :
    (text d how pairs = "" ↔ effective pairs = []) ∧
      (clauseText d how pairs = "" ↔ effective pairs = []) ∧
      (effective pairs ≠ [] → (f.reads d (text d how pairs) = true ↔ Hold f d how pairs)) ∧
      (IsChain "TRUE" ∧ f.reads d "TRUE" = true) ∧
      (∀ chain, IsChain chain → IsChain (chain ++ clauseText d how pairs) ∧
        (f.reads d (chain ++ clauseText d how pairs) = true ↔
          f.reads d chain = true ∧ Hold f d how pairs)) ∧
      ∀ column t n, IsOperand (d.render column) → timeOf f d column = some t →
        let tells (operator : String) (n : Int) : Prop :=
          f.reads d (text d how [(column, some (.relative operator n))]) = true
        (tells "isBefore" n ↔ ¬tells "isAfter" n) ∧
          (tells "isEqual" n ↔ tells "isAfter" n ∧ ¬tells "isAfter" (n - 1)) := by
  refine ⟨text_eq_empty_iff, ?_, fun hne => (reads_text h hne).2, ⟨isChain_true, reads_true⟩,
    fun chain hchain => reads_clauseText h hchain, ?_⟩
  · rw [clauseText_eq]
    split
    · next hnil => exact iff_of_true rfl hnil
    · next hne =>
      refine iff_of_false (fun hempty => ?_) hne
      have hlist := congrArg String.toList hempty
      simp at hlist
  · intro column t n hcolumn ht tells
    have htells (operator : String) (ho : operator ∈ DateOption.dayOperators) (n : Int) :
        tells operator n ↔ (DateOption.relative operator n).Admits f.calendar t :=
      reads_relative hcolumn ht ho n
    rw [htells "isBefore" (by decide), htells "isAfter" (by decide), htells "isEqual" (by decide),
      htells "isAfter" (by decide)]
    exact ⟨DateOption.admits_relative_isBefore _ _ _, DateOption.admits_relative_isEqual _ _ _⟩

end Meaning

def someDates : List Dated := [
  (.name "date_inscr", some (.relative "isAfter" 7)),
  (.name "date_complete",
    some { isAny := false, type := "range", first := .str "2024-03-05T10:00" }),
  (.name "date_end", some { isAny := false, type := "relative", operator := "range" })]

/-- A row from five days ago without a completion, as it is read in Athena's words. -/
def fiveDaysOld : Facts where
  calendar := ⟨100, fun _ => 80⟩
  time := fun ts => if ts = [.word "date_inscr".toList] then some (dayStart 95) else none
  holds := fun _ => false

theorem effective_someDates : effective someDates =
    [(.name "date_inscr", .relative "isAfter" 7), (.name "date_complete",
      { isAny := false, type := "range", first := .str "2024-03-05T10:00" })] := rfl

theorem readable_someDates : Readable .athena someDates := by
  refine ⟨?_, ?_⟩
  · rw [effective_someDates, List.forall_mem_cons, List.forall_mem_singleton]
    exact ⟨⟨.leaf (.word "date_inscr".toList) .nil, ⟨rfl, by decide, by decide, trivial⟩, by decide⟩,
      ⟨.leaf (.word "date_complete".toList) .nil, ⟨rfl, by decide, by decide, trivial⟩, by decide⟩⟩
  · rw [effective_someDates, List.forall_mem_cons, List.forall_mem_singleton]
    exact ⟨⟨nofun, nofun⟩, ⟨fun _ => by decide, nofun⟩⟩

theorem texts_hold_iff_someDates :
    Readable .athena someDates ∧ effective someDates ≠ [] ∧
      fiveDaysOld.reads .athena (text .athena .atLeastOne someDates) = true ∧
      fiveDaysOld.reads .athena ("TRUE" ++ clauseText .athena .atLeastOne someDates) = true ∧
      ¬fiveDaysOld.reads .athena ("TRUE" ++ clauseText .athena .all someDates) = true := by
  have hne : effective someDates ≠ [] := by simp [effective_someDates]
  have htime : timeOf fiveDaysOld .athena (.name "date_inscr") = some (dayStart 95) := rfl
  have hnone : timeOf fiveDaysOld .athena (.name "date_complete") = none := rfl
  obtain ⟨-, -, halone, ⟨hchain, htrue⟩, hbehind, -⟩ :=
    texts_hold_iff fiveDaysOld .atLeastOne readable_someDates
  obtain ⟨-, -, -, -, hall, -⟩ :=
    texts_hold_iff fiveDaysOld .all readable_someDates
  have hadmits : (DateOption.relative "isAfter" 7).Admits fiveDaysOld.calendar (dayStart 95) := by
    rw [DateOption.admits_relative_isAfter]
    decide +kernel
  have hany : Hold fiveDaysOld .athena .atLeastOne someDates := by
    rw [Hold, effective_someDates]
    exact fun _ => ⟨_, List.mem_cons_self, dayStart 95, htime, hadmits⟩
  have hnot : ¬Hold fiveDaysOld .athena .all someDates := by
    rw [Hold, effective_someDates]
    intro h
    obtain ⟨x, hx, -⟩ := h _ (List.mem_cons_of_mem _ List.mem_cons_self)
    cases hnone.symm.trans hx
  exact ⟨readable_someDates, hne, (halone hne).mpr hany, (hbehind _ hchain).2.mpr ⟨htrue, hany⟩,
    fun h => hnot ((hall _ hchain).2.mp h).2⟩

end DateFilter
end LearningReports
