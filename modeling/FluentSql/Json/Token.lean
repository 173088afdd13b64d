import FluentSql.Json.Numeral

/-!
# Json/Token — the words of a JSON text

`tokens` splits a text into its tokens.  A string is kept as the pieces between its quotes and a
numeral unread, so that a reader can decide how strict to be about them.  The first place that is no
token at all becomes `malformed` and ends the list.
-/

namespace FluentSql.Json

/-- A piece of a string: a character, or the UTF-16 unit of a `\u` escape. -/
inductive Piece
  | char (c : Char)
  | unit (n : Nat)
  deriving DecidableEq, Repr

/-- **A token.** -/
inductive Token
  | openArray
  | closeArray
  | openObject
  | closeObject
  | comma
  | colon
  | null
  | bool (flag : Bool)
  | number (n : Numeral)
  | string (pieces : List Piece)
  | malformed
  deriving DecidableEq, Repr

/-! ## Strings -/

/-- The character an escape letter stands for. -/
def unescape? : Char → Option Char
  | '"' => some '"'
  | '\\' => some '\\'
  | '/' => some '/'
  | 'b' => some '\x08'
  | 'f' => some '\x0c'
  | 'n' => some '\n'
  | 'r' => some '\r'
  | 't' => some '\t'
  | _ => none

/-- The unit four hexadecimal digits stand for. -/
def unit? (a b c d : Char) : Option Nat := do
  return (← Text.Hex.value? a) * 4096 + (← Text.Hex.value? b) * 256 + (← Text.Hex.value? c) * 16 +
    (← Text.Hex.value? d)

/-- **The pieces of a string up to its closing quote**, and what follows it.  A control character
or an unknown escape is a failure. -/
def scanString : List Char → Option (List Piece × List Char)
  | [] => none
  | '"' :: rest => some ([], rest)
  | '\\' :: 'u' :: a :: b :: c :: d :: rest => do
    let n ← unit? a b c d
    let (pieces, after) ← scanString rest
    return (.unit n :: pieces, after)
  | '\\' :: e :: rest => do
    let c ← unescape? e
    let (pieces, after) ← scanString rest
    return (.char c :: pieces, after)
  | c :: rest =>
    if c.val < 0x20 then none
    else do
      let (pieces, after) ← scanString rest
      return (.char c :: pieces, after)

theorem length_scanString {s r : List Char} {ps : List Piece}
    (h : scanString s = some (ps, r)) : r.length ≤ s.length := by
  fun_induction scanString s generalizing ps with
  | case1 => simp at h
  | case2 rest => simp at h; simp [h]
  | case3 a b c d rest ih =>
    simp only [Option.bind_eq_bind, Option.bind_eq_some_iff] at h
    obtain ⟨n, _, ⟨ps', r'⟩, h', h⟩ := h
    cases h
    have : r'.length ≤ rest.length := ih h'
    simp only [List.length_cons]; omega
  | case4 e rest _ ih =>
    simp only [Option.bind_eq_bind, Option.bind_eq_some_iff] at h
    obtain ⟨n, _, ⟨ps', r'⟩, h', h⟩ := h
    cases h
    have : r'.length ≤ rest.length := ih h'
    simp only [List.length_cons]; omega
  | case5 => simp at h
  | case6 c rest _ _ _ _ ih =>
    simp only [Option.bind_eq_bind, Option.bind_eq_some_iff] at h
    obtain ⟨⟨ps', r'⟩, h', h⟩ := h
    cases h
    have : r'.length ≤ rest.length := ih h'
    simp only [List.length_cons]; omega

/-- **The text of a string's pieces** — units outside the surrogates stand for themselves, a high
and a low surrogate in a row for one character, and a surrogate alone for nothing. -/
def assemble : List Piece → Option (List Char)
  | [] => some []
  | .char c :: rest => do return c :: (← assemble rest)
  | .unit high :: .unit low :: rest =>
    if 0xD800 ≤ high ∧ high ≤ 0xDBFF then
      if 0xDC00 ≤ low ∧ low ≤ 0xDFFF then do
        return Char.ofNat (0x10000 + (high - 0xD800) * 0x400 + (low - 0xDC00)) :: (← assemble rest)
      else none
    else if 0xDC00 ≤ high ∧ high ≤ 0xDFFF then none
    else do return Char.ofNat high :: (← assemble (.unit low :: rest))
  | .unit n :: rest =>
    if 0xD800 ≤ n ∧ n ≤ 0xDFFF then none else do return Char.ofNat n :: (← assemble rest)

/-! ## Tokens -/

/-- The blanks between tokens: space, tab, line feed, carriage return. -/
def isSpace (c : Char) : Bool := c == ' ' || c == '\t' || c == '\n' || c == '\r'

/-- **The token that starts with a character**, and what follows it. -/
def scanToken (c : Char) (s : List Char) : Token × List Char :=
  match c, s with
  | '[', s => (.openArray, s)
  | ']', s => (.closeArray, s)
  | '{', s => (.openObject, s)
  | '}', s => (.closeObject, s)
  | ',', s => (.comma, s)
  | ':', s => (.colon, s)
  | 'n', 'u' :: 'l' :: 'l' :: rest => (.null, rest)
  | 't', 'r' :: 'u' :: 'e' :: rest => (.bool true, rest)
  | 'f', 'a' :: 'l' :: 's' :: 'e' :: rest => (.bool false, rest)
  | '"', s =>
    match scanString s with
    | some (pieces, rest) => (.string pieces, rest)
    | none => (.malformed, [])
  | '-', s =>
    match Numeral.scan true s with
    | some (n, rest) => (.number n, rest)
    | none => (.malformed, [])
  | c, s =>
    match Numeral.scan false (c :: s) with
    | some (n, rest) => (.number n, rest)
    | none => (.malformed, [])

theorem length_scanToken (c : Char) (s : List Char) : (scanToken c s).2.length ≤ s.length := by
  unfold scanToken
  split <;> first
    | exact Nat.le_refl _
    | (simp only [List.length_cons]; omega)
    | skip
  · split
    · next h => exact length_scanString h
    · simp
  · split
    · next h => exact Nat.le_of_lt (Numeral.length_scan h)
    · simp
  · split
    · next h => exact Nat.le_of_lt_succ (Numeral.length_scan h)
    · simp

/-- **The tokens of a text**, up to the first malformed one. -/
def tokens : List Char → List Token
  | [] => []
  | c :: rest =>
    if isSpace c then tokens rest
    else (scanToken c rest).1 :: tokens (scanToken c rest).2
termination_by s => s.length
decreasing_by
  · simp
  · have := length_scanToken c rest
    simp only [List.length_cons]
    omega

end FluentSql.Json
