/-!
Blank characters.

A character is blank if Unicode counts it as white space or if its bidirectional class is a
separator or white space. That adds the four information separators to the usual set; the
zero-width characters are not blank.
-/

namespace MoveClient

/-- Whether a character is blank. -/
def isBlank (c : Char) : Bool :=
  let code := c.toNat
  (0x09 ≤ code && code ≤ 0x0d) || (0x1c ≤ code && code ≤ 0x20) || code == 0x85 || code == 0xa0 ||
    code == 0x1680 || (0x2000 ≤ code && code ≤ 0x200a) || code == 0x2028 || code == 0x2029 ||
    code == 0x202f || code == 0x205f || code == 0x3000

/-- The text between the first and the last character that is not blank. -/
def trimBlanks (text : List Char) : List Char :=
  ((text.dropWhile isBlank).reverse.dropWhile isBlank).reverse

/-- The text on one line: a single space stands for each run of blanks inside, and there are none
around it. -/
def joinWords (text : List Char) : String :=
  let runs := text.splitBy fun left right => isBlank left == isBlank right
  " ".intercalate ((runs.filter fun run => !run.all isBlank).map String.ofList)

/-- Every ASCII blank is blank. -/
theorem isBlank_of_isWhitespace (c : Char) (h : c.isWhitespace = true) : isBlank c = true := by
  simp only [Char.isWhitespace, Bool.or_eq_true, decide_eq_true_eq] at h
  rcases h with ((rfl | rfl) | rfl) | rfl <;> decide

end MoveClient
