import FluentSql.Json.Token

/-!
# Json/Reader — documents from tokens

A reader walks over the tokens with the brackets still open on a stack of frames, so one token is
one `step` and nothing recurses.  What a reader accepts beyond the grammar is its `Policy`: `strict`
bounds the nesting and checks numbers and strings, `lenient` only skips over a document.
-/

namespace FluentSql.Json

/-- **What a reader asks of a document** besides the grammar. -/
structure Policy where
  /-- The deepest nesting allowed, if there is a bound. -/
  maxDepth : Option Nat
  /-- The number of a numeral. -/
  number? : Numeral → Option Json
  /-- The text of a string. -/
  string? : List Piece → Option String

/-- At most 127 levels of brackets, numbers in range, every surrogate paired. -/
def Policy.strict : Policy :=
  { maxDepth := some 127
    number? := Numeral.read?
    string? := fun pieces => (assemble pieces).map String.ofList }

/-- The grammar alone; the document itself is not kept. -/
def Policy.lenient : Policy :=
  { maxDepth := none, number? := fun _ => some .null, string? := fun _ => some "" }

/-- An open bracket with what it holds so far, the last element first. -/
inductive Frame
  | array (items : List Json)
  | object (fields : List (String × Json)) (name : String)

/-- What the next token has to be. -/
inductive Expected
  | value
  | firstItem
  | firstName
  | name
  | colon
  | separator
  deriving DecidableEq

/-- **A reader in the middle of a document.** -/
structure Progress where
  frames : List Frame
  expected : Expected

/-- What one token leads to. -/
inductive Step
  | more (p : Progress)
  | done (j : Json)
  | fault

namespace Progress

/-- A reader before the first token. -/
def start : Progress := ⟨[], .value⟩

/-- Puts a finished document into the innermost bracket. -/
def place (j : Json) : List Frame → Step
  | [] => .done j
  | .array items :: rest => .more ⟨.array (j :: items) :: rest, .separator⟩
  | .object fields name :: rest => .more ⟨.object ((name, j) :: fields) "" :: rest, .separator⟩

/-- Opens a bracket unless the nesting is at its bound. -/
def push (policy : Policy) (frames : List Frame) (f : Frame) (next : Expected) : Step :=
  match policy.maxDepth with
  | some bound => if frames.length < bound then .more ⟨f :: frames, next⟩ else .fault
  | none => .more ⟨f :: frames, next⟩

/-- A token where a value has to start. -/
def value (policy : Policy) (frames : List Frame) : Token → Step
  | .openArray => push policy frames (.array []) .firstItem
  | .openObject => push policy frames (.object [] "") .firstName
  | .null => place .null frames
  | .bool flag => place (.bool flag) frames
  | .number n => match policy.number? n with
    | some j => place j frames
    | none => .fault
  | .string pieces => match policy.string? pieces with
    | some s => place (.string s) frames
    | none => .fault
  | _ => .fault

/-- A token where the name of a field has to stand. -/
def fieldName (policy : Policy) : List Frame → Token → Step
  | .object fields _ :: rest, .string pieces => match policy.string? pieces with
    | some s => .more ⟨.object fields s :: rest, .colon⟩
    | none => .fault
  | _, _ => .fault

/-- Closes the innermost bracket. -/
def close : List Frame → Token → Step
  | .array items :: rest, .closeArray => place (.array items.reverse) rest
  | .object fields _ :: rest, .closeObject => place (.object fields.reverse) rest
  | _, _ => .fault

/-- **One token.** -/
def step (policy : Policy) (p : Progress) (t : Token) : Step :=
  match p.expected with
  | .value => value policy p.frames t
  | .firstItem => if t = .closeArray then close p.frames t else value policy p.frames t
  | .firstName => if t = .closeObject then close p.frames t else fieldName policy p.frames t
  | .name => fieldName policy p.frames t
  | .colon => if t = .colon then .more ⟨p.frames, .value⟩ else .fault
  | .separator =>
    if t = .comma then
      match p.frames with
      | .array _ :: _ => .more ⟨p.frames, .value⟩
      | .object _ _ :: _ => .more ⟨p.frames, .name⟩
      | [] => .fault
    else close p.frames t

end Progress

/-- The document that starts a list of tokens, and the tokens after it. -/
def readFrom (policy : Policy) : Progress → List Token → Option (Json × List Token)
  | _, [] => none
  | p, t :: rest =>
    match p.step policy t with
    | .more p => readFrom policy p rest
    | .done j => some (j, rest)
    | .fault => none

/-- **The document at the start of a text**, and the tokens after it. -/
def read? (policy : Policy) (s : String) : Option (Json × List Token) :=
  readFrom policy Progress.start (tokens s.toList)

end FluentSql.Json
