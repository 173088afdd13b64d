import FluentSql.Binary64.Shortest
import FluentSql.Text.Hex
import FluentSql.Text.Join

/-!
# Json/Basic — JSON documents and their compact text

An object keeps its fields in order and may repeat a name.  `render` writes no space anywhere, and
escapes in a string only what has to be: the quote, the backslash and the control characters.
-/

namespace FluentSql

/-- **A JSON document.** -/
inductive Json
  | null
  | bool (flag : Bool)
  | int (n : Int)
  | float (x : Binary64)
  | string (s : String)
  | array (items : List Json)
  | object (fields : List (String × Json))
  deriving Repr, BEq

namespace Json

/-! ## Strings -/

/-- **A character inside a string** — as it is, or escaped when it would end or break the string. -/
def escape (c : Char) : List Char :=
  if c = '"' then ['\\', '"']
  else if c = '\\' then ['\\', '\\']
  else if c = '\x08' then ['\\', 'b']
  else if c = '\t' then ['\\', 't']
  else if c = '\n' then ['\\', 'n']
  else if c = '\x0c' then ['\\', 'f']
  else if c = '\r' then ['\\', 'r']
  else if c.val < 0x20 then '\\' :: 'u' :: '0' :: '0' :: Text.Hex.lower c.val.toUInt8
  else [c]

/-- A string in quotes. -/
def renderString (s : String) : String :=
  String.ofList ('"' :: (s.toList.flatMap escape ++ ['"']))

/-! ## Numbers -/

/-- An exponent, always with its sign. -/
def exponentText (n : Int) : List Char :=
  'e' :: (if n < 0 then '-' else '+') :: Text.digits n.natAbs

/-- **A nonzero finite number** — positional while the point falls within sixteen digits to the
right or five zeros to the left, and then with at least one decimal; else one digit before the
point and a signed exponent. -/
def floatDigits (s : Binary64.ShortDecimal) : List Char :=
  let ds := Text.digits s.digits
  let point : Int := ds.length + s.power
  if 0 ≤ s.power ∧ point ≤ 16 then s.positional ++ ['.', '0']
  else if -5 < point ∧ point ≤ 16 then s.positional
  else match ds with
    | [] => []
    | [d] => d :: exponentText (point - 1)
    | d :: rest => d :: '.' :: rest ++ exponentText (point - 1)

/-- A float; JSON has no spelling for a NaN or an infinity, which become `null`. -/
def renderFloat (x : Binary64) : String :=
  if !x.isFinite then "null"
  else
    let magnitude := if x.isZero then ['0', '.', '0'] else floatDigits (x.shortest .even)
    String.ofList (if x.negative then '-' :: magnitude else magnitude)

/-! ## Documents -/

mutual

/-- **The compact text of a document.** -/
def render : Json → String
  | null => "null"
  | bool flag => if flag then "true" else "false"
  | int n => Text.ofInt n
  | float x => renderFloat x
  | string s => renderString s
  | array items => "[" ++ Text.joinWith "," (renderItems items) ++ "]"
  | object fields => "\x7b" ++ Text.joinWith "," (renderFields fields) ++ "\x7d"

/-- The texts of a list of documents. -/
def renderItems : List Json → List String
  | [] => []
  | j :: rest => render j :: renderItems rest

/-- The texts of the fields of an object. -/
def renderFields : List (String × Json) → List String
  | [] => []
  | (name, j) :: rest => (renderString name ++ ":" ++ render j) :: renderFields rest

end

/-- A whole number in the unsigned 64-bit range. -/
def ofUInt64 (n : UInt64) : Json := int n.toNat

end Json

end FluentSql
