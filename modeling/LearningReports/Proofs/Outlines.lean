import LearningReports.Proofs.AlikeTexts
import LearningReports.Proofs.Occurs
import LearningReports.Sql.Dialect

/-! # Outlines of expressions

The outline of an expression leaves out the time zones and the times that it puts between quotes,
its skeleton every text between quotes but for the keys of records. An expression whose other texts
have no quotes is worded like its skeleton, and so like its outline: what stands between quotes
cannot change how the rest is cut, as long as its quotes stand in pairs. -/
namespace LearningReports.Sql

open Text

/-! ## Closed expressions -/

def Aggregate.isClosed : Aggregate → Bool
  | .joinDistinct separator => isPlain separator
  | .anyValue | .max | .sum | .count | .countDistinct => true

section

variable (p : String → Bool)

/-- Texts that are put between quotes as they are have the property `p`; others have no quotes. -/
def Function.isClosed : Function → Bool
  | .localTime zone => p zone
  | .quotedField key => p key
  | .field key => isPlain key
  | .day | .readTime | .readDay | .daysUntil => true

def Moment.isClosed : Moment → Bool
  | .at time => p time
  | .now | .today | .daysFromToday _ => true

/-- Texts that are put between quotes as they are have the property `p`, others that are not
escaped have no quotes, and nothing stands in the expression that was given as a whole. -/
def Expr.isClosed : Expr → Bool
  | .raw _ => false
  | .word text => isPlain text
  | .int _ | .ids _ | .str _ | .label _ | .noMore => true
  | .verbatim text => p text
  | .col table column => isPlain table && isPlain column
  | .name column => isPlain column
  | .pair a b => a.isClosed && b.isClosed
  | .call function e => isPlain function && e.isClosed
  | .aggregate f e => f.isClosed && e.isClosed
  | .cast e type | .tryCast e type => e.isClosed && isPlain type
  | .op _ a b => a.isClosed && b.isClosed
  | .isNull e | .notNull e | .not e | .paren e | .choice e | .otherwise e => e.isClosed
  | .arm condition value rest => condition.isClosed && value.isClosed && rest.isClosed
  | .choose condition yes no => condition.isClosed && yes.isClosed && no.isClosed
  | .apply f e => f.isClosed p && e.isClosed
  | .moment m => m.isClosed p
  | .inSelect _ e item table condition =>
    e.isClosed && item.isClosed && isPlain table && condition.isClosed

end

/-- The expression is closed and puts no text between quotes as it is. -/
abbrev Expr.isFixed (e : Expr) : Bool := e.isClosed fun _ => false

/-! ## Outlines -/

def Function.outline : Function → Function
  | .localTime _ => .localTime ""
  | f => f

def Moment.outline : Moment → Moment
  | .at _ => .at ""
  | m => m

/-- The expression without its time zones and times. -/
def Expr.outline : Expr → Expr
  | .pair a b => .pair a.outline b.outline
  | .call function e => .call function e.outline
  | .aggregate f e => .aggregate f e.outline
  | .cast e type => .cast e.outline type
  | .tryCast e type => .tryCast e.outline type
  | .op o a b => .op o a.outline b.outline
  | .isNull e => .isNull e.outline
  | .notNull e => .notNull e.outline
  | .not e => .not e.outline
  | .paren e => .paren e.outline
  | .choice arms => .choice arms.outline
  | .arm condition value rest => .arm condition.outline value.outline rest.outline
  | .otherwise value => .otherwise value.outline
  | .choose condition yes no => .choose condition.outline yes.outline no.outline
  | .apply f e => .apply f.outline e.outline
  | .moment m => .moment m.outline
  | .inSelect negated e item table condition =>
    .inSelect negated e.outline item.outline table condition.outline
  | e => e

/-! ## Skeletons -/

def Function.skeleton : Function → Function
  | .localTime _ => .localTime ""
  | .quotedField _ => .quotedField ""
  | f => f

/-- The expression without the texts that it puts between quotes. -/
def Expr.skeleton : Expr → Expr
  | .str _ => .str ""
  | .verbatim _ => .verbatim ""
  | .label _ => .label ""
  | .pair a b => .pair a.skeleton b.skeleton
  | .call function e => .call function e.skeleton
  | .aggregate f e => .aggregate f e.skeleton
  | .cast e type => .cast e.skeleton type
  | .tryCast e type => .tryCast e.skeleton type
  | .op o a b => .op o a.skeleton b.skeleton
  | .isNull e => .isNull e.skeleton
  | .notNull e => .notNull e.skeleton
  | .not e => .not e.skeleton
  | .paren e => .paren e.skeleton
  | .choice arms => .choice arms.skeleton
  | .arm condition value rest => .arm condition.skeleton value.skeleton rest.skeleton
  | .otherwise value => .otherwise value.skeleton
  | .choose condition yes no => .choose condition.skeleton yes.skeleton no.skeleton
  | .apply f e => .apply f.skeleton e.skeleton
  | .moment m => .moment m.outline
  | .inSelect negated e item table condition =>
    .inSelect negated e.skeleton item.skeleton table condition.skeleton
  | e => e

theorem Function.isClosed_of_isFixed (p : String → Bool) {f : Function}
    (h : f.isClosed (fun _ => false) = true) : f.isClosed p = true := by
  cases f with
  | localTime => cases h
  | quotedField => cases h
  | _ => exact h

namespace Expr

-- the inductions below unfold them at every constructor
attribute [local simp] isClosed outline skeleton

/-- What an outline leaves out, a skeleton leaves out too. -/
theorem skeleton_outline (e : Expr) : e.outline.skeleton = e.skeleton := by
  induction e with
  | apply f e ih =>
    rw [outline, skeleton, skeleton, ih]
    cases f with
    | _ => rfl
  | moment m =>
    cases m with
    | _ => rfl
  | _ => simp_all

theorem isClosed_outline {p : String → Bool} (hp : p "" = true) {e : Expr}
    (h : e.isClosed p = true) : e.outline.isClosed p = true := by
  induction e with
  | apply f e ih =>
    obtain ⟨hf, he⟩ := (Bool.and_eq_true _ _).mp h
    refine (Bool.and_eq_true _ _).mpr ⟨?_, ih he⟩
    cases f with
    | localTime => exact hp
    | _ => exact hf
  | moment m =>
    cases m with
    | «at» => exact hp
    | _ => rfl
  | _ => simp_all

theorem isClosed_of_isFixed (p : String → Bool) {e : Expr} (h : e.isFixed = true) :
    e.isClosed p = true := by
  induction e with
  | apply f e ih =>
    obtain ⟨hf, he⟩ := (Bool.and_eq_true _ _).mp h
    exact (Bool.and_eq_true _ _).mpr ⟨Function.isClosed_of_isFixed p hf, ih he⟩
  | moment m =>
    cases m with
    | «at» => cases h
    | _ => rfl
  | verbatim => cases h
  | raw => cases h
  | _ => simp_all [isFixed]

theorem outline_of_isFixed {e : Expr} (h : e.isFixed = true) : e.outline = e := by
  induction e with
  | apply f e ih =>
    obtain ⟨hf, he⟩ := (Bool.and_eq_true _ _).mp h
    rw [outline, ih he]
    cases f with
    | localTime => cases hf
    | _ => rfl
  | moment m =>
    cases m with
    | «at» => cases h
    | _ => rfl
  | _ => simp_all [isFixed]

theorem outline_joined (o : Operator) (e : Expr) (es : List Expr) :
    (joined o e es).outline = joined o e.outline (es.map outline) := by
  induction es generalizing e with
  | nil => rfl
  | cons e' es ih => rw [joined, ih, outline, List.map_cons, joined]

end Expr

/-! ## Wordings -/

namespace Dialect

variable (d : Dialect) {e e' : String}

theorem alike_enclosed {opening closing : String} (he : Alike e e')
    (hopening : closes none opening.toList = true) (hclosing : closes none closing.toList = true) :
    Alike (opening ++ e ++ closing) (opening ++ e' ++ closing) :=
  (he.closed_append hopening).append_closed hclosing

/-- The texts stand around the inside of quotes: the first is `before`, the opening quote and
`first`, and the second is `last`, the closing quote and `after`. -/
def quotesInside (before first last after opening closing : String) : Bool :=
  opening == before ++ "'" ++ first && closing == last ++ "'" ++ after
    && closes none before.toList && closes none after.toList && isPaired first && isPaired last

theorem alike_insert (before first last after : String) {opening closing s t : String}
    (hs : isPaired s = true) (ht : isPaired t = true)
    (h : quotesInside before first last after opening closing = true) :
    Alike (opening ++ s ++ closing) (opening ++ t ++ closing) := by
  simp only [quotesInside, Bool.and_eq_true, beq_iff_eq] at h
  obtain ⟨⟨⟨⟨⟨rfl, rfl⟩, hbefore⟩, hafter⟩, hfirst⟩, hlast⟩ := h
  have hwhole {u : String} (hu : isPaired u = true) : isPaired (first ++ u ++ last) = true :=
    isPaired_append (isPaired_append hfirst hu) hlast
  have h := alike_enclosed (alike_between (hwhole hs) (hwhole ht)) hbefore hafter
  simpa only [String.append_assoc] using h

theorem alike_callWith (before first last after : String) {opening closing name s t : String}
    (he : Alike e e') (hs : isPaired s = true) (ht : isPaired t = true)
    (hname : closes none name.toList = true)
    (h : quotesInside before first last after opening closing = true) :
    Alike (name ++ e ++ opening ++ s ++ closing) (name ++ e' ++ opening ++ t ++ closing) := by
  have hcall := (he.closed_append hname).append (alike_insert before first last after hs ht h)
  simpa only [String.append_assoc] using hcall

theorem alike_column {c : String} (h : isPlain c = true) : Alike (d.column c) (d.column c) := by
  cases d with
  | athena => exact alike_of_isPlain h
  | snowflake =>
    have hlower := mark_not_mem_of_isPlain (isPlain_lower h) .double
    have hquote : "\"" ++ lower c ++ "\"" = quote Mark.double.char (lower c) := by
      refine String.toList_injective ?_
      rw [quote, doubled_of_not_mem hlower]
      simp [Mark.char]
    change Alike ("\"" ++ lower c ++ "\"") ("\"" ++ lower c ++ "\"")
    rw [hquote]
    exact alike_quote .double _ _

theorem alike_aggregate {f : Aggregate} (hf : f.isClosed = true) (he : Alike e e') :
    Alike (d.aggregate f e) (d.aggregate f e') := by
  cases f with
  | joinDistinct separator =>
    have hpaired : isPaired separator = true := isPaired_of_isPlain hf
    cases d with
    | athena => exact alike_callWith ")), " "" "" ")" he hpaired hpaired (by cbv) (by cbv)
    | snowflake => exact alike_callWith ")), " "" "" ")" he hpaired hpaired (by cbv) (by cbv)
  | anyValue =>
    cases d with
    | athena => exact alike_enclosed he (by cbv) (by cbv)
    | snowflake => exact alike_enclosed he (by cbv) (by cbv)
  | max => exact alike_enclosed he (by cbv) (by cbv)
  | sum => exact alike_enclosed he (by cbv) (by cbv)
  | count => exact alike_enclosed he (by cbv) (by cbv)
  | countDistinct => exact alike_enclosed he (by cbv) (by cbv)

theorem alike_function {f : Function} (hf : f.isClosed isPaired = true) (he : Alike e e') :
    Alike (d.function f e) (d.function f.skeleton e') := by
  cases f with
  | localTime zone =>
    cases d with
    | athena =>
      exact alike_callWith " AT TIME ZONE " "" "" ", '%Y-%m-%d %H:%i:%s')" he hf rfl (by cbv)
        (by cbv)
    | snowflake =>
      exact ((alike_insert "TO_CHAR(CONVERT_TIMEZONE(" "" "" ", " hf rfl (by cbv)).append
        he).append_closed (by cbv)
  | field key =>
    have hpaired : isPaired key = true := isPaired_of_isPlain hf
    cases d with
    | athena => exact alike_callWith ", " "$." "" ")" he hpaired hpaired (by cbv) (by cbv)
    | snowflake => exact alike_callWith ", " "" "" ")" he hpaired hpaired (by cbv) (by cbv)
  | quotedField key =>
    cases d with
    | athena => exact alike_callWith ", " "$[\"" "\"]" ")" he hf rfl (by cbv) (by cbv)
    | snowflake => exact alike_callWith ", " "\"" "\"" ")" he hf rfl (by cbv) (by cbv)
  | day =>
    cases d with
    | athena => exact alike_enclosed he (by cbv) (by cbv)
    | snowflake => exact alike_enclosed he (by cbv) (by cbv)
  | readTime =>
    cases d with
    | athena => exact alike_enclosed he (by cbv) (by cbv)
    | snowflake => exact alike_enclosed he (by cbv) (by cbv)
  | readDay =>
    cases d with
    | athena => exact alike_enclosed he (by cbv) (by cbv)
    | snowflake => exact alike_enclosed he (by cbv) (by cbv)
  | daysUntil =>
    cases d with
    | athena => exact alike_enclosed he (by cbv) (by cbv)
    | snowflake => exact alike_enclosed he (by cbv) (by cbv)

theorem alike_moment {m : Moment} (hm : m.isClosed isPaired = true) :
    Alike (d.moment m) (d.moment m.outline) := by
  cases m with
  | now =>
    cases d with
    | athena => exact alike_closed (s := "NOW()") (by cbv)
    | snowflake => exact alike_closed (s := "current_timestamp()") (by cbv)
  | today =>
    cases d with
    | athena => exact alike_closed (s := "CURRENT_DATE") (by cbv)
    | snowflake => exact alike_closed (s := "CURRENT_DATE()") (by cbv)
  | daysFromToday n =>
    have hnumber : Alike (toString n) (toString n) := alike_of_isPlain (isPlain_number n)
    cases d with
    | athena => exact alike_enclosed hnumber (by cbv) (by cbv)
    | snowflake => exact alike_enclosed hnumber (by cbv) (by cbv)
  | «at» time =>
    cases d with
    | athena => exact alike_insert "TIMESTAMP " "" "" "" hm rfl (by cbv)
    | snowflake => exact alike_insert "TO_TIMESTAMP(" "" "" ")" hm rfl (by cbv)

theorem alike_operator (o : Operator) : Alike o.text o.text := by
  cases o with
  | _ => exact alike_closed (by cbv)

/-- A closed expression whose texts have their quotes in pairs is worded like its skeleton. -/
theorem alike_skeleton {e : Expr} (h : e.isClosed isPaired = true) :
    Alike (d.render e) (d.render e.skeleton) := by
  have hplain {s : String} (hs : isPlain s = true) : Alike s s := alike_of_isPlain hs
  induction e with
  | raw => cases h
  | word => exact hplain h
  | int n => exact hplain (isPlain_number n)
  | ids ns => exact .intercalate (alike_closed (by cbv)) ns fun n _ => hplain (isPlain_number n)
  | str text => exact alike_quote .single text ""
  | verbatim => exact alike_between h rfl
  | label text => exact alike_quote .double text ""
  | col table c =>
    obtain ⟨htable, hcolumn⟩ := (Bool.and_eq_true _ _).mp h
    exact ((hplain htable).append_closed (by cbv)).append (d.alike_column hcolumn)
  | name => exact d.alike_column h
  | pair a b iha ihb =>
    obtain ⟨ha, hb⟩ := (Bool.and_eq_true _ _).mp h
    exact ((iha ha).append_closed (by cbv)).append (ihb hb)
  | call f e ih =>
    obtain ⟨hf, he⟩ := (Bool.and_eq_true _ _).mp h
    exact (((hplain hf).append_closed (by cbv)).append (ih he)).append_closed (by cbv)
  | aggregate f e ih =>
    obtain ⟨hf, he⟩ := (Bool.and_eq_true _ _).mp h
    exact d.alike_aggregate hf (ih he)
  | cast e type ih =>
    obtain ⟨he, htype⟩ := (Bool.and_eq_true _ _).mp h
    exact ((alike_enclosed (ih he) (by cbv) (by cbv)).append (hplain htype)).append_closed (by cbv)
  | tryCast e type ih =>
    obtain ⟨he, htype⟩ := (Bool.and_eq_true _ _).mp h
    exact ((alike_enclosed (ih he) (by cbv) (by cbv)).append (hplain htype)).append_closed (by cbv)
  | op o a b iha ihb =>
    obtain ⟨ha, hb⟩ := (Bool.and_eq_true _ _).mp h
    exact (((iha ha).append_closed (by cbv)).append (alike_operator o)).append_closed
      (by cbv) |>.append (ihb hb)
  | isNull e ih => exact (ih h).append_closed (by cbv)
  | notNull e ih => exact (ih h).append_closed (by cbv)
  | not e ih => exact .closed_append (by cbv) (ih h)
  | paren e ih => exact alike_enclosed (ih h) (by cbv) (by cbv)
  | choice arms ih => exact alike_enclosed (ih h) (by cbv) (by cbv)
  | arm condition value rest ihc ihv ihr =>
    obtain ⟨hboth, hr⟩ := (Bool.and_eq_true _ _).mp h
    obtain ⟨hc, hv⟩ := (Bool.and_eq_true _ _).mp hboth
    exact ((alike_enclosed (ihc hc) (by cbv) (by cbv)).append (ihv hv)).append (ihr hr)
  | otherwise value ih => exact .closed_append (by cbv) (ih h)
  | noMore => exact .empty
  | choose condition yes no ihc ihy ihn =>
    obtain ⟨hboth, hn⟩ := (Bool.and_eq_true _ _).mp h
    obtain ⟨hc, hy⟩ := (Bool.and_eq_true _ _).mp hboth
    have hcall (name : String) (hname : closes none name.toList = true) :
        Alike (name ++ d.render condition ++ ", " ++ d.render yes ++ ", " ++ d.render no ++ ")")
          (name ++ d.render condition.skeleton ++ ", " ++ d.render yes.skeleton ++ ", "
            ++ d.render no.skeleton ++ ")") :=
      ((((alike_enclosed (ihc hc) hname (by cbv)).append (ihy hy)).append_closed (by cbv)).append
        (ihn hn)).append_closed (by cbv)
    cases d with
    | athena => exact hcall "IF(" (by cbv)
    | snowflake => exact hcall "IFF(" (by cbv)
  | apply f e ih =>
    obtain ⟨hf, he⟩ := (Bool.and_eq_true _ _).mp h
    exact d.alike_function hf (ih he)
  | moment => exact d.alike_moment h
  | inSelect negated e item table condition ihe ihi ihc =>
    obtain ⟨hrest, hc⟩ := (Bool.and_eq_true _ _).mp h
    obtain ⟨hboth, htable⟩ := (Bool.and_eq_true _ _).mp hrest
    obtain ⟨he, hi⟩ := (Bool.and_eq_true _ _).mp hboth
    have hname : Alike (if negated then " NOT IN (SELECT " else " IN (SELECT ")
        (if negated then " NOT IN (SELECT " else " IN (SELECT ") := by
      cases negated with
      | _ => exact alike_closed (by cbv)
    exact (((((((ihe he).append hname).append (ihi hi)).append_closed (by cbv)).append
      (hplain htable)).append_closed (by cbv)).append (ihc hc)).append_closed (by cbv)

theorem alike_of_skeleton {e e' : Expr} (he : e.isClosed isPaired = true)
    (he' : e'.isClosed isPaired = true) (h : e.skeleton = e'.skeleton) :
    Alike (d.render e) (d.render e') :=
  (d.alike_skeleton he).trans (h ▸ (d.alike_skeleton he').symm)

theorem alike_render {e : Expr} (h : e.isClosed isPaired = true) :
    Alike (d.render e) (d.render e.outline) :=
  d.alike_of_skeleton h (Expr.isClosed_outline rfl h) (Expr.skeleton_outline e).symm

end Dialect
end LearningReports.Sql
