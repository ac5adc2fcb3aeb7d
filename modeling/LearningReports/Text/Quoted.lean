/-! # Quoted text

A quotation mark inside a quoted text is written twice. -/
namespace LearningReports.Text

/-- The characters with every mark `q` written twice. -/
def doubled (q : Char) : List Char → List Char
  | [] => []
  | c :: cs => if c = q then q :: q :: doubled q cs else c :: doubled q cs

/-- The text between two marks, marks inside written twice. -/
def quote (q : Char) (s : String) : String :=
  String.ofList (q :: doubled q s.toList ++ [q])

@[simp] theorem doubled_nil (q : Char) : doubled q [] = [] := rfl

theorem doubled_cons_self (q : Char) (cs : List Char) :
    doubled q (q :: cs) = q :: q :: doubled q cs := by
  simp [doubled]

theorem doubled_cons_ne {q c : Char} (h : c ≠ q) (cs : List Char) :
    doubled q (c :: cs) = c :: doubled q cs := by
  simp [doubled, h]

end LearningReports.Text
