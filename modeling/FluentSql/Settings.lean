import FluentSql.Json.Reader

/-!
# Settings — how to connect, and reading it from JSON

Every setting has a default, so a document may leave any of them out.  It is an object with the
settings by name, unknown names skipped, or an array with the settings in their order.  The reader
goes through the tokens once and stops at the first fault, which is either no JSON at all or JSON of
the wrong shape.
-/

namespace FluentSql

/-- **The settings of a connection.** -/
structure Settings where
  url : String := "sqlite::memory:"
  /-- The name the connection reports for its database. -/
  database : Option String := none
  /-- Whether a missing database file is created. -/
  createIfMissing : Bool := true
  /-- Whether the query log starts enabled. -/
  logQueries : Bool := false
  /-- Whether statements show their values. -/
  debugStatements : Bool := false
  deriving DecidableEq, Repr

namespace Settings

/-- The settings for a location, all else by default. -/
def ofUrl (url : String) : Settings := { url := url }

/-- A database in memory. -/
def memory : Settings := {}

/-! ## Fields -/

/-- **The name of a setting.** -/
inductive Field
  | url
  | database
  | createIfMissing
  | logQueries
  | debugStatements
  deriving DecidableEq, Repr

/-- The settings in the order of an array. -/
def Field.all : List Field := [.url, .database, .createIfMissing, .logQueries, .debugStatements]

/-- The name of a setting in an object. -/
def Field.name : Field → String
  | url => "url"
  | database => "database"
  | createIfMissing => "create_if_missing"
  | logQueries => "log_queries"
  | debugStatements => "debug_statements"

/-- The setting of a name. -/
def Field.ofName? (name : String) : Option Field := Field.all.find? fun f => f.name == name

/-- **Sets a field** to a document, if it is of the right kind. -/
def set? (s : Settings) : Field → Json → Option Settings
  | .url, .string url => some { s with url := url }
  | .database, .string name => some { s with database := some name }
  | .database, .null => some { s with database := none }
  | .createIfMissing, .bool on => some { s with createIfMissing := on }
  | .logQueries, .bool on => some { s with logQueries := on }
  | .debugStatements, .bool on => some { s with debugStatements := on }
  | _, _ => none

/-! ## Reading -/

/-- **Why a text is no settings.** -/
inductive ReadError
  /-- JSON of the wrong shape. -/
  | data
  /-- No JSON. -/
  | malformed
  deriving DecidableEq, Repr

/-- Where a reader stands. -/
inductive Place
  /-- Before the document. -/
  | start
  /-- Behind the opening brace. -/
  | firstName
  /-- Behind a comma between fields. -/
  | name
  /-- Behind the name of a setting. -/
  | colon (f : Field)
  /-- Before the value of a setting. -/
  | value (f : Field)
  /-- Behind an unknown name. -/
  | skippedColon
  /-- Inside the value of an unknown name. -/
  | skipping (p : Json.Progress)
  /-- Behind a field. -/
  | separator
  /-- Behind the opening bracket. -/
  | firstItem
  /-- Before an item, which is the first of these settings. -/
  | item (fields : List Field)
  /-- Behind an item, with the settings left. -/
  | itemSeparator (fields : List Field)
  /-- Behind the document. -/
  | done

/-- **A reader in the middle of a document**: its place, the settings read so far and their names. -/
structure Reading where
  place : Place := .start
  settings : Settings := {}
  seen : List Field := []

namespace Reading

/-- The document one token stands for, if it is no bracket: a fault when the token is malformed. -/
def scalar (t : Json.Token) : Except ReadError Json :=
  match t with
  | .openArray | .openObject => .error .data
  | t =>
    match Json.Progress.value .strict [] t with
    | .done j => .ok j
    | _ => .error .malformed

/-- Takes the value of a setting. -/
def takeValue (r : Reading) (f : Field) (t : Json.Token) (next : Place) :
    Except ReadError Reading := do
  let j ← scalar t
  match r.settings.set? f j with
  | some s => return { r with settings := s, place := next }
  | none => throw .data

/-- Takes the name of a field.  A known name must not come twice. -/
def takeName (r : Reading) : Json.Token → Except ReadError Reading
  | .string pieces =>
    match Json.Policy.strict.string? pieces with
    | none => .error .malformed
    | some name =>
      match Field.ofName? name with
      | none => .ok { r with place := .skippedColon }
      | some f =>
        if f ∈ r.seen then .error .data
        else .ok { r with place := .colon f, seen := f :: r.seen }
  | _ => .error .malformed

/-- Takes an item of an array.  Beyond the last setting there is none. -/
def takeItem (r : Reading) (t : Json.Token) : List Field → Except ReadError Reading
  | [] => .error .malformed
  | f :: rest => r.takeValue f t (.itemSeparator rest)

/-- Takes a token behind the document or instead of it. -/
def expect (r : Reading) (t expected : Json.Token) (next : Place) : Except ReadError Reading :=
  if t = expected then .ok { r with place := next } else .error .malformed

/-- **One token.** -/
def step (r : Reading) (t : Json.Token) : Except ReadError Reading :=
  match r.place with
  | .start =>
    match t with
    | .openObject => .ok { r with place := .firstName }
    | .openArray => .ok { r with place := .firstItem }
    | t => (scalar t).bind fun _ => .error .data
  | .firstName => if t = .closeObject then .ok { r with place := .done } else r.takeName t
  | .name => r.takeName t
  | .colon f => r.expect t .colon (.value f)
  | .value f => r.takeValue f t .separator
  | .skippedColon => r.expect t .colon (.skipping .start)
  | .skipping p =>
    match p.step .lenient t with
    | .more p => .ok { r with place := .skipping p }
    | .done _ => .ok { r with place := .separator }
    | .fault => .error .malformed
  | .separator =>
    if t = .comma then .ok { r with place := .name } else r.expect t .closeObject .done
  | .firstItem => if t = .closeArray then .ok { r with place := .done } else r.takeItem t Field.all
  | .item fields => r.takeItem t fields
  | .itemSeparator fields =>
    if t = .comma then .ok { r with place := .item fields } else r.expect t .closeArray .done
  | .done => .error .malformed

end Reading

/-- **Settings from their JSON text.** -/
def read (text : String) : Except ReadError Settings := do
  let r ← (Json.tokens text.toList).foldlM Reading.step {}
  match r.place with
  | .done => return r.settings
  | _ => throw .malformed

end Settings

end FluentSql
