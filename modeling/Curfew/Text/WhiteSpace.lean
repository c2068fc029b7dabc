/-!
# White space

The Unicode property `White_Space`, and **`trim`**, which takes it off both ends of a text.
-/

namespace Curfew.Text

/-- The Unicode property `White_Space`: the ASCII controls 9 to 13, the blank, NEL, the no-break
and other space characters, and the line and paragraph separators. -/
def isWhiteSpace (c : Char) : Bool :=
  let n := c.toNat
  (9 ≤ n && n ≤ 13) || n == 0x20 || n == 0x85 || n == 0xA0 || n == 0x1680 ||
    (0x2000 ≤ n && n ≤ 0x200A) || n == 0x2028 || n == 0x2029 || n == 0x202F || n == 0x205F ||
    n == 0x3000

/-- Core's ASCII white space is white space here. -/
theorem isWhiteSpace_of_isWhitespace {c : Char} (h : c.isWhitespace = true) :
    isWhiteSpace c = true := by
  simp only [Char.isWhitespace, Bool.or_eq_true, decide_eq_true_eq] at h
  rcases h with ((rfl | rfl) | rfl) | rfl <;> decide

/-- `chars` without the white space at either end. -/
def trimChars (chars : List Char) : List Char :=
  ((chars.dropWhile isWhiteSpace).reverse.dropWhile isWhiteSpace).reverse

/-- `text` without the white space at either end; white space inside is kept. -/
def trim (text : String) : String := String.ofList (trimChars text.toList)

end Curfew.Text
