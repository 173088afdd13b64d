import FluentSql.Value.Basic
import FluentSql.Text.Hex

/-!
# Value/Literal — a value written into the text of a statement

Literals are for reading a log, never for execution.  A text stands between single quotes with every
quote inside doubled, a blob is a hexadecimal literal; both can be scanned back.
-/

namespace FluentSql.Value

/-- A text with every single quote doubled. -/
def doubleQuotes : List Char → List Char
  | [] => []
  | c :: rest => if c = '\'' then '\'' :: '\'' :: doubleQuotes rest else c :: doubleQuotes rest

@[simp] theorem doubleQuotes_nil : doubleQuotes [] = [] := rfl

/-- A text literal: quoted, with the quotes inside doubled. -/
def textLiteral (s : List Char) : List Char := '\'' :: (doubleQuotes s ++ ['\''])

/-- A blob literal: two upper-case hexadecimal digits a byte. -/
def blobLiteral (bytes : List UInt8) : List Char :=
  'X' :: '\'' :: (bytes.flatMap Text.Hex.upper ++ ['\''])

/-- **The literal of a value.** -/
def literal : Value → String
  | null => "NULL"
  | bool flag => if flag then "TRUE" else "FALSE"
  | int n => Text.ofInt n.toInt
  | float x => x.text
  | text s => String.ofList (textLiteral s.toList)
  | blob bytes => String.ofList (blobLiteral bytes)

/-- **The value as a person reads it** — a text bare, anything else as its literal. -/
def display : Value → String
  | text s => s
  | v => v.literal

example : literal (text "it's") = "'it''s'" := by decide +kernel
example : literal (blob [0, 255]) = "X'00FF'" := by decide +kernel

end FluentSql.Value
