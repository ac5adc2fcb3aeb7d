import LearningReports.Json.Value
import LearningReports.Number.Integer

/-! # Reading JSON text

Besides the standard grammar the reader takes the words `NaN`, `Infinity` and `-Infinity`. Of
several members with one key the last value stands, at the place of the first. The reader goes down
one call for each bracket that it opens, and calls may nest only so deep. -/
namespace LearningReports.Json

/-- Why a text is not read. -/
inductive ReadFault where
  | malformed
  | tooLong (digits : Nat)
  | tooDeep
  deriving Repr, DecidableEq

/-- The blanks that may stand between tokens. -/
def isGap (c : Char) : Bool := c == ' ' || c == '\t' || c == '\n' || c == '\r'

/-- The text without leading gaps. -/
def skipGaps (cs : List Char) : List Char := cs.dropWhile isGap

/-- The text after a given beginning. -/
def after? : List Char → List Char → Option (List Char)
  | [], cs => some cs
  | _ :: _, [] => none
  | w :: ws, c :: cs => if w = c then after? ws cs else none

/-- The value of a digit of base sixteen. -/
def hexValue? (c : Char) : Option Nat :=
  if '0' ≤ c ∧ c ≤ '9' then some (c.toNat - '0'.toNat)
  else if 'a' ≤ c ∧ c ≤ 'f' then some (c.toNat - 'a'.toNat + 10)
  else if 'A' ≤ c ∧ c ≤ 'F' then some (c.toNat - 'A'.toNat + 10)
  else none

/-- Four digits of base sixteen and the rest. -/
def hexQuad? : List Char → Option (Nat × List Char)
  | a :: b :: c :: d :: cs => do
    let a ← hexValue? a
    let b ← hexValue? b
    let c ← hexValue? c
    let d ← hexValue? d
    return (((a * 16 + b) * 16 + c) * 16 + d, cs)
  | _ => none

/-- The character that stands for a half of a pair without its other half. Texts are sequences of
whole characters here, so all such halves become one. -/
def replacement : Char := '\uFFFD'

/-- The character of a numbered escape; two halves of a pair make one character. -/
def numbered? (cs : List Char) : Option (Char × List Char) :=
  match hexQuad? cs with
  | none => none
  | some (n, rest) =>
    if 0xD800 ≤ n && n ≤ 0xDBFF then
      match (after? ['\\', 'u'] rest).bind hexQuad? with
      | some (low, rest') =>
        if 0xDC00 ≤ low && low ≤ 0xDFFF then
          some (Char.ofNat (0x10000 + (n - 0xD800) * 0x400 + (low - 0xDC00)), rest')
        else some (replacement, rest)
      | none => some (replacement, rest)
    else if 0xDC00 ≤ n && n ≤ 0xDFFF then some (replacement, rest)
    else some (Char.ofNat n, rest)

/-- The character of an escape with one letter. -/
def escaped? : Char → Option Char
  | '"' => some '"'
  | '\\' => some '\\'
  | '/' => some '/'
  | 'b' => some '\x08'
  | 'f' => some '\x0c'
  | 'n' => some '\n'
  | 'r' => some '\r'
  | 't' => some '\t'
  | _ => none

/-- The characters up to the closing quote, gathered in reverse. -/
def readText : Nat → List Char → List Char → Except ReadFault (String × List Char)
  | 0, _, _ => .error .malformed
  | _ + 1, _, [] => .error .malformed
  | fuel + 1, acc, c :: cs =>
    if c = '"' then .ok (String.ofList acc.reverse, cs)
    else if c.toNat < 0x20 then .error .malformed
    else if c = '\\' then
      match cs with
      | [] => .error .malformed
      | 'u' :: rest =>
        match numbered? rest with
        | some (d, rest) => readText fuel (d :: acc) rest
        | none => .error .malformed
      | e :: rest =>
        match escaped? e with
        | some d => readText fuel (d :: acc) rest
        | none => .error .malformed
    else readText fuel (c :: acc) cs

/-- The leading digits `0` to `9` and the rest. -/
def plainDigits (cs : List Char) : List Char × List Char := cs.span (·.isDigit)

/-- The digits after a point; nothing is taken when no digit follows it. -/
def fractionDigits : List Char → List Char × List Char
  | '.' :: cs =>
    match plainDigits cs with
    | ([], _) => ([], '.' :: cs)
    | (ds, rest) => (ds, rest)
  | cs => ([], cs)

/-- The exponent after its mark; nothing is taken when no digit follows. -/
def exponentPart (cs : List Char) : Option (Bool × List Char) × List Char :=
  match cs with
  | [] => (none, [])
  | mark :: rest =>
    if mark = 'e' ∨ mark = 'E' then
      let (negative, digits) := Number.signOf rest
      match plainDigits digits with
      | ([], _) => (none, cs)
      | (ds, rest') => (some (negative, ds), rest')
    else (none, cs)

/-- The number that digit characters write. -/
def digitsValue (cs : List Char) : Nat := Text.ofDigits (cs.map fun c => c.toNat - '0'.toNat)

/-- Reads a number after its sign; `first` and the digits of `cs` are its integer part. -/
def readNumber (negative : Bool) (cs : List Char) : Except ReadFault (Json × List Char) :=
  match plainDigits cs with
  | ([], _) => .error .malformed
  | (d :: ds, rest) =>
    let (whole, rest) := if d = '0' then ([d], ds ++ rest) else (d :: ds, rest)
    let (fraction, rest) := fractionDigits rest
    let (exponent, rest) := exponentPart rest
    match fraction, exponent with
    | [], none =>
      if whole.length > Number.digitLimit then .error (.tooLong whole.length)
      else .ok (.int (Number.withSign negative (digitsValue whole)), rest)
    | _, _ =>
      let shift : Int := match exponent with
        | none => 0
        | some (minus, ds) => Number.withSign minus (digitsValue ds)
      .ok (.float (.ofDecimal negative (digitsValue (whole ++ fraction))
        (shift - Int.ofNat fraction.length)), rest)

/-- The words that stand for values. -/
def words : List (String × Json) := [
  ("null", .null), ("true", .bool true), ("false", .bool false), ("NaN", .float .nan),
  ("Infinity", .float (.infinite false)), ("-Infinity", .float (.infinite true))]

/-- The value of a word at the front of a text. -/
def word? (cs : List Char) : Option (Json × List Char) :=
  words.findSome? fun (w, v) => (after? w.toList cs).map fun rest => (v, rest)

mutual

/-- Reads one value at the front of a text without leading gaps, with room for so many brackets
inside one another. -/
def readValue : Nat → Nat → List Char → Except ReadFault (Json × List Char)
  | 0, _, _ => .error .malformed
  | fuel + 1, room, cs =>
    match cs with
    | '"' :: rest => do
      let (s, rest) ← readText (rest.length + 1) [] rest
      return (.str s, rest)
    | '[' :: rest =>
      match room with
      | 0 => .error .tooDeep
      | room + 1 =>
        match skipGaps rest with
        | ']' :: rest => .ok (.arr [], rest)
        | rest => readItems fuel room [] rest
    | '\x7b' :: rest =>
      match room with
      | 0 => .error .tooDeep
      | room + 1 =>
        match skipGaps rest with
        | '\x7d' :: rest => .ok (.obj [], rest)
        | rest => readMembers fuel room [] rest
    | _ =>
      match word? cs with
      | some found => .ok found
      | none =>
        match cs with
        | '-' :: rest => readNumber true rest
        | _ => readNumber false cs

/-- Reads the items of an array from the first one on, gathered in reverse. -/
def readItems : Nat → Nat → List Json → List Char → Except ReadFault (Json × List Char)
  | 0, _, _, _ => .error .malformed
  | fuel + 1, room, acc, cs => do
    let (v, rest) ← readValue fuel room (skipGaps cs)
    match skipGaps rest with
    | ',' :: rest => readItems fuel room (v :: acc) rest
    | ']' :: rest => return (.arr (v :: acc).reverse, rest)
    | _ => .error .malformed

/-- Reads the members of an object from the first one on. -/
def readMembers : Nat → Nat → List (String × Json) → List Char →
    Except ReadFault (Json × List Char)
  | 0, _, _, _ => .error .malformed
  | fuel + 1, room, acc, cs => do
    match skipGaps cs with
    | '"' :: rest =>
      let (key, rest) ← readText (rest.length + 1) [] rest
      match skipGaps rest with
      | ':' :: rest =>
        let (v, rest) ← readValue fuel room (skipGaps rest)
        match skipGaps rest with
        | ',' :: rest => readMembers fuel room (bindKey key v acc) rest
        | '\x7d' :: rest => return (.obj (bindKey key v acc), rest)
        | _ => .error .malformed
      | _ => .error .malformed
    | _ => .error .malformed

end

/-- Reads a text that holds one value and nothing else but gaps. -/
def read (s : String) (room : Nat := usualNesting) : Except ReadFault Json := do
  let cs := s.toList
  let (v, rest) ← readValue (cs.length + 1) room (skipGaps cs)
  if (skipGaps rest).isEmpty then return v else .error .malformed

end LearningReports.Json
