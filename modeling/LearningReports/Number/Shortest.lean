import LearningReports.Number.Binary64

/-! # The shortest decimal of a number

A number is written with the fewest digits that read back as the same number, and of those with
the digits nearest to it. The digits are sought on grids of one to seventeen digits in exact
arithmetic. -/
namespace LearningReports.Number

/-- `digits * 10 ^ exponent`. -/
structure Decimal where
  digits : Nat
  exponent : Int
  deriving Repr, DecidableEq

/-- The exponent of the greatest power of ten that is not above a positive ratio. -/
def decimalOrder (num den : Nat) : Int :=
  if den ≤ num then Int.ofNat (Binary64.decimalLength (num / den)) - 1
  else
    let k := Binary64.decimalLength (den / num)
    if den ≤ num * Nat.pow 10 (k - 1) then 1 - Int.ofNat k else -Int.ofNat k

/-- The ratios between which every decimal reads back as the number, and whether the ends do. -/
structure Neighbourhood where
  low : Nat × Nat
  high : Nat × Nat
  closed : Bool

/-- The neighbourhood of a finite size: half way to the number below and to the one above. Below a
power of two the numbers stand twice as close. -/
def Neighbourhood.of (significand : Nat) (exponent : Int) : Neighbourhood :=
  let narrow := significand = Nat.pow 2 52 && Binary64.minExponent < exponent
  { low := Binary64.ratio (4 * significand - (if narrow then 1 else 2)) (exponent - 2)
    high := Binary64.ratio (4 * significand + 2) (exponent - 2)
    closed := significand % 2 == 0 }

/-- `digits * 10 ^ e` as a ratio. -/
def Decimal.ratio (d : Decimal) : Nat × Nat :=
  if 0 ≤ d.exponent then (d.digits * Nat.pow 10 d.exponent.toNat, 1)
  else (d.digits, Nat.pow 10 (-d.exponent).toNat)

def Neighbourhood.contains (nb : Neighbourhood) (d : Decimal) : Bool :=
  let (n, k) := d.ratio
  let left := nb.low.1 * k
  let mid := n * nb.low.2
  let mid' := n * nb.high.2
  let right := nb.high.1 * k
  if nb.closed then left ≤ mid && mid' ≤ right else left < mid && mid' < right

/-- The best decimal with the given least exponent, if one lies in the neighbourhood. -/
def nearestOnGrid? (nb : Neighbourhood) (num den : Nat) (e : Int) : Option Decimal :=
  let (n, d) :=
    if 0 ≤ e then (num, den * Nat.pow 10 e.toNat) else (num * Nat.pow 10 (-e).toNat, den)
  let below : Decimal := ⟨n / d, e⟩
  let above : Decimal := ⟨n / d + 1, e⟩
  let nearest : Decimal := ⟨Binary64.roundRatio n d, e⟩
  if nb.contains nearest then some nearest
  else if nb.contains below then some below
  else if nb.contains above then some above
  else none

/-- The decimal on the first grid that has one; `count` grids from least exponent `e` downwards. -/
def shortestFrom (nb : Neighbourhood) (num den : Nat) (e : Int) : Nat → Decimal
  | 0 => ⟨0, 0⟩
  | count + 1 =>
    match nearestOnGrid? nb num den e with
    | some d => d
    | none => shortestFrom nb num den (e - 1) count

/-- The shortest decimal of a positive finite size. -/
def shortest (significand : Nat) (exponent : Int) : Decimal :=
  let (num, den) := Binary64.ratio significand exponent
  shortestFrom (Neighbourhood.of significand exponent) num den (decimalOrder num den) 18

/-- The exponents of ten whose numbers are written without an exponent mark. -/
structure NumberFormat where
  leastPlain : Int
  greatestPlain : Int

/-- Numbers from `0.0001` to below ten to the sixteenth are written without an exponent mark. -/
def numberFormat : NumberFormat := ⟨-4, 15⟩

/-- Digits without the zeros at their end. -/
def significantDigits (n : Nat) : List Char :=
  ((Nat.toDigits 10 n).reverse.dropWhile (· == '0')).reverse

/-- A number of at least two digits with its sign. -/
def exponentText (e : Int) : List Char :=
  let ds := Nat.toDigits 10 e.natAbs
  (if e < 0 then '-' else '+') :: (if ds.length < 2 then '0' :: ds else ds)

/-- A decimal as text; a number without fraction keeps one zero after the point. -/
def Decimal.text (d : Decimal) (f : NumberFormat) : List Char :=
  let all := Nat.toDigits 10 d.digits
  let order := d.exponent + Int.ofNat all.length - 1
  let ds := significantDigits d.digits
  if order < f.leastPlain || f.greatestPlain < order then
    match ds with
    | [] => ['0', '.', '0']
    | [c] => c :: 'e' :: exponentText order
    | c :: cs => c :: '.' :: cs ++ 'e' :: exponentText order
  else if order < 0 then
    '0' :: '.' :: List.replicate (-order - 1).toNat '0' ++ ds
  else
    let whole := order.toNat + 1
    let padded := ds ++ List.replicate (whole - ds.length) '0'
    let fraction := padded.drop whole
    padded.take whole ++ '.' :: (if fraction.isEmpty then ['0'] else fraction)

def Binary64.text : Binary64 → String
  | .nan => "nan"
  | .infinite negative => if negative then "-inf" else "inf"
  | .finite negative m e =>
    let body := if m = 0 then ['0', '.', '0'] else (shortest m e).text numberFormat
    String.ofList (if negative then '-' :: body else body)

end LearningReports.Number
