import LearningReports.Text.Blank
import LearningReports.Text.DecimalDigit

/-! # Integers written as text

Two readers. `readInteger` takes an optional sign and the decimal digits of any script, with one
underscore between two digits at most and white space around the whole.

`readPlainInteger` takes the strict form first: an optional minus and the digits `0` to `9`, without
a zero in front. A text in another form is simplified once and must then have the strict form:
white space around it, a plus, zeros in front, a fraction of zeros, and single underscores do not
count. Among the zeros in front underscores are free, and the minus may stand behind them. -/
namespace LearningReports.Number

/-- The most digits that a text may have to be read as an integer. Writing has no limit. -/
def digitLimit : Nat := 4300

/-- Why a text is not an integer. -/
inductive IntegerFault where
  | malformed
  | tooLong (digits : Nat)
  deriving Repr, DecidableEq

def withSign (negative : Bool) (n : Nat) : Int := if negative then -n else n

/-! ## Digits of any script -/

/-- The values of the leading digits and the rest of the text. None when an underscore is not
followed by a digit. -/
def digitRun : List Char → Option (List Nat × List Char)
  | [] => some ([], [])
  | ['_'] => none
  | '_' :: c :: cs =>
    match Text.digitValue? c with
    | some d => (digitRun cs).map fun (ds, rest) => (d :: ds, rest)
    | none => none
  | c :: cs =>
    match Text.digitValue? c with
    | some d => (digitRun cs).map fun (ds, rest) => (d :: ds, rest)
    | none => some ([], c :: cs)

/-- The sign of a text, true for a minus, and what follows it. -/
def signOf : List Char → Bool × List Char
  | '-' :: cs => (true, cs)
  | '+' :: cs => (false, cs)
  | cs => (false, cs)

/-- The digits of a text that starts with one, and the rest. -/
def leadingDigits (cs : List Char) : Option (List Nat × List Char) :=
  match cs with
  | '_' :: _ => none
  | _ =>
    match digitRun cs with
    | some (d :: ds, rest) => some (d :: ds, rest)
    | _ => none

/-- Reads an integer in the digits of any script. -/
def readInteger (s : String) : Except IntegerFault Int :=
  let (negative, cs) := signOf (Text.strip Text.isSpacing s.toList)
  match leadingDigits cs with
  | none => .error .malformed
  | some (ds, rest) =>
    if ds.length > digitLimit then .error (.tooLong ds.length)
    else if rest.isEmpty then .ok (withSign negative (Text.ofDigits ds))
    else .error .malformed

/-! ## The strict form -/

/-- Reads the digits of the strict form. Digits beyond the limit are a fault of their own whatever
follows them. -/
def readDigits (negative : Bool) (cs : List Char) : Except IntegerFault Int :=
  let digits := cs.takeWhile Char.isDigit
  if digits.isEmpty then .error .malformed
  else if digits.length > digitLimit then .error (.tooLong digits.length)
  else if digits.length < cs.length then .error .malformed
  else .ok (withSign negative (Text.ofDigits (digits.map fun c => c.toNat - '0'.toNat)))

/-- Reads an integer in the strict form. A zero in front stands alone. -/
def readStrict (cs : List Char) : Except IntegerFault Int :=
  let (negative, digits) : Bool × List Char :=
    match cs with
    | '-' :: rest => (true, rest)
    | _ => (false, cs)
  match digits with
  | ['0'] => .ok 0
  | '0' :: _ => .error .malformed
  | _ => readDigits negative digits

/-! ## Simplified texts -/

/-- A digit from `1` to `9`, or the minus. -/
def startsNumber (c : Char) : Bool := ('1' ≤ c && c ≤ '9') || c == '-'

/-- What follows a run of zeros and underscores of which the last character is given. The last one
stays in front of a point and at the end of the text. -/
def afterZeros (last : Char) : List Char → Option (List Char)
  | [] => some [last]
  | c :: cs =>
    if c == '0' || c == '_' then afterZeros c cs
    else if startsNumber c then some (c :: cs)
    else if c == '.' then some (last :: c :: cs)
    else none

/-- The text without the zeros in front. -/
def dropLeadingZeros : List Char → Option (List Char)
  | [] => none
  | c :: cs =>
    if c == '0' then afterZeros c cs
    else if startsNumber c then some (c :: cs)
    else none

/-- The text without a fraction of zeros. -/
def dropZeroFraction (cs : List Char) : List Char :=
  match cs.dropWhile (· != '.') with
  | '.' :: z :: zs => if (z :: zs).all (· == '0') then cs.takeWhile (· != '.') else cs
  | _ => cs

/-- Two underscores stand side by side. -/
def hasDoubleUnderscore : List Char → Bool
  | '_' :: '_' :: _ => true
  | _ :: cs => hasDoubleUnderscore cs
  | [] => false

/-- The text without its underscores, if they stand alone and inside. -/
def dropUnderscores (cs : List Char) : List Char :=
  if cs.head? == some '_' || cs.getLast? == some '_' || hasDoubleUnderscore cs then cs
  else cs.filter (· != '_')

/-- The text after its sign in the simplest form. -/
def simplifyDigits (cs : List Char) : Option (List Char) :=
  (dropLeadingZeros cs).map fun rest => dropUnderscores (dropZeroFraction rest)

/-- The text in the simplest form. A plus stands in front of no minus. -/
def simplify (cs : List Char) : Option (List Char) :=
  match Text.strip Text.isSpacing cs with
  | '+' :: '-' :: _ => none
  | '+' :: rest => simplifyDigits rest
  | '-' :: rest => (simplifyDigits rest).map ('-' :: ·)
  | rest => simplifyDigits rest

/-- Reads an integer in the digits `0` to `9`, strict or simplified. -/
def readPlainInteger (s : String) : Except IntegerFault Int :=
  match readStrict s.toList with
  | .error .malformed =>
    match simplify s.toList with
    | some cs => readStrict cs
    | none => .error .malformed
  | done => done

end LearningReports.Number
