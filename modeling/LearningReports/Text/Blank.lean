/-! # Blank characters

Two classes: `isSpacing` is the white-space property of the character standard, `isBlank` adds the
four information separators. -/
namespace LearningReports.Text

/-- Code points with the white-space property. -/
def spacingCodes : List Nat := [
  0x9, 0xa, 0xb, 0xc, 0xd, 0x20, 0x85, 0xa0, 0x1680, 0x2000, 0x2001, 0x2002, 0x2003, 0x2004,
  0x2005, 0x2006, 0x2007, 0x2008, 0x2009, 0x200a, 0x2028, 0x2029, 0x202f, 0x205f, 0x3000]

/-- The character has the white-space property. -/
def isSpacing (c : Char) : Bool := spacingCodes.contains c.toNat

/-- White space or one of the information separators U+001C to U+001F. -/
def isBlank (c : Char) : Bool := isSpacing c || (0x1c ≤ c.toNat && c.toNat ≤ 0x1f)

/-- The text without the leading and trailing characters of a class. -/
def strip (p : Char → Bool) (cs : List Char) : List Char :=
  ((cs.dropWhile p).reverse.dropWhile p).reverse

/-- The text without blanks at either end. -/
def trim (s : String) : String := String.ofList (strip isBlank s.toList)

@[simp] theorem strip_nil (p : Char → Bool) : strip p [] = [] := rfl

end LearningReports.Text
