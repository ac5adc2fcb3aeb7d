/-! # Occurrences of a text in another -/
namespace LearningReports.Text

/-- The first text stands somewhere in the second. -/
def occursIn (needle : List Char) : List Char → Bool
  | [] => needle.isEmpty
  | c :: cs => needle.isPrefixOf (c :: cs) || occursIn needle cs

end LearningReports.Text
