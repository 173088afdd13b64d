/-!
# Text/Blank — the characters that separate words, and trimming them off

`isBlank` is the Unicode property `White_Space`: all twenty-five characters, not only those of
ASCII.  Trimming is `List.dropWhile` at one end of a text or at both.
-/

namespace FluentSql.Text

/-- **The property `White_Space`** — tab to carriage return, the space, and the spaces, line ends
and separators beyond ASCII. -/
def isBlank (c : Char) : Bool :=
  (0x09 ≤ c.val && c.val ≤ 0x0D) || c.val == 0x20 || c.val == 0x85 || c.val == 0xA0 ||
  c.val == 0x1680 || (0x2000 ≤ c.val && c.val ≤ 0x200A) || c.val == 0x2028 || c.val == 0x2029 ||
  c.val == 0x202F || c.val == 0x205F || c.val == 0x3000

/-- The text without its leading blanks. -/
def dropBlanks (s : List Char) : List Char := s.dropWhile isBlank

/-- The text without its trailing blanks. -/
def dropTrailingBlanks (s : List Char) : List Char := (s.reverse.dropWhile isBlank).reverse

/-- **Trimming** — the text without the blanks at its two ends. -/
def stripBlanks (s : List Char) : List Char := dropTrailingBlanks (dropBlanks s)

@[simp] theorem stripBlanks_nil : stripBlanks [] = [] := rfl

theorem length_dropBlanks_le (s : List Char) : (dropBlanks s).length ≤ s.length :=
  (List.dropWhile_suffix isBlank).length_le

theorem length_dropTrailingBlanks_le (s : List Char) :
    (dropTrailingBlanks s).length ≤ s.length := by
  have h := (List.dropWhile_suffix isBlank (l := s.reverse)).length_le
  simpa [dropTrailingBlanks] using h

/-- Trimming never makes a text longer. -/
theorem length_stripBlanks_le (s : List Char) : (stripBlanks s).length ≤ s.length :=
  Nat.le_trans (length_dropTrailingBlanks_le _) (length_dropBlanks_le s)

/-- Trimming on strings. -/
def trim (s : String) : String := String.ofList (stripBlanks s.toList)

@[simp] theorem toList_trim (s : String) : (trim s).toList = stripBlanks s.toList := by
  simp [trim]

end FluentSql.Text
