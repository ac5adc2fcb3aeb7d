/-! # Binary floating-point numbers of 64 bits

A finite number is `± significand * 2 ^ exponent` with a significand below `2 ^ 53` and an exponent
from `-1074`; the exponent is as small as the significand allows, so equal numbers are equal
values. -/
namespace LearningReports.Number

inductive Binary64 where
  | nan
  | infinite (negative : Bool)
  | finite (negative : Bool) (significand : Nat) (exponent : Int)
  deriving Repr, DecidableEq

namespace Binary64

/-- The least exponent. -/
def minExponent : Int := -1074

/-- The greatest exponent. -/
def maxExponent : Int := 971

/-- Zero with a sign. -/
def zero (negative : Bool) : Binary64 := .finite negative 0 minExponent

/-- The quotient rounded to the nearest integer, a half to the even one. -/
def roundRatio (num den : Nat) : Nat :=
  let q := num / den
  let r := num % den
  if 2 * r < den then q
  else if 2 * r = den then q + q % 2
  else q + 1

/-- `num * 2 ^ -e` and `den`, or `num` and `den * 2 ^ e`: the ratio divided by `2 ^ e`. -/
def scaleRatio (num den : Nat) (e : Int) : Nat × Nat :=
  if 0 ≤ e then (num, den * Nat.pow 2 e.toNat) else (num * Nat.pow 2 (-e).toNat, den)

/-- The exponent of the greatest power of two that is not above a positive ratio. -/
def binaryOrder (num den : Nat) : Int :=
  let e : Int := Int.ofNat num.log2 - Int.ofNat den.log2
  let (n, d) := scaleRatio num den e
  if n < d then e - 1 else e

/-- The number nearest to a ratio, of two equally near ones that with the even significand. -/
def ofRatio (negative : Bool) (num den : Nat) : Binary64 :=
  if num = 0 then zero negative
  else
    let e := max (binaryOrder num den - 52) minExponent
    let (n, d) := scaleRatio num den e
    let m := roundRatio n d
    let (m, e) := if m = Nat.pow 2 53 then (Nat.pow 2 52, e + 1) else (m, e)
    if e > maxExponent then .infinite negative else .finite negative m e

def decimalLength (n : Nat) : Nat := (Nat.toDigits 10 n).length

/-- The number nearest to `digits * 10 ^ e`. Far outside the range no power is computed. -/
def ofDecimal (negative : Bool) (digits : Nat) (e : Int) : Binary64 :=
  let order := Int.ofNat (decimalLength digits) + e
  if digits = 0 || order < -330 then zero negative
  else if order > 310 then .infinite negative
  else if 0 ≤ e then ofRatio negative (digits * Nat.pow 10 e.toNat) 1
  else ofRatio negative digits (Nat.pow 10 (-e).toNat)

/-- The size of a finite number as a ratio. -/
def ratio (significand : Nat) (exponent : Int) : Nat × Nat :=
  if 0 ≤ exponent then (significand * Nat.pow 2 exponent.toNat, 1)
  else (significand, Nat.pow 2 (-exponent).toNat)

/-- The integer part of a finite size. -/
def truncate (significand : Nat) (exponent : Int) : Nat :=
  let (n, d) := ratio significand exponent
  n / d

/-- A finite size without a fraction. -/
def isWhole (significand : Nat) (exponent : Int) : Bool :=
  let (n, d) := ratio significand exponent
  n % d == 0

/-- The number is zero, of either sign. -/
def isZero : Binary64 → Bool
  | .finite _ 0 _ => true
  | _ => false

@[simp] theorem isZero_zero (negative : Bool) : (zero negative).isZero = true := rfl

end Binary64
end LearningReports.Number
