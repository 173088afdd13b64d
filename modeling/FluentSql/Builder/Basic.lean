import FluentSql.Dialect.Template
import FluentSql.Error

/-!
# Builder/Basic — a query in the making, and the edits that make it

A `Builder` is a query with what belongs to running it: the first error met, the wish for a row, the
page, the debug flag.  Calls act on it only by primitive `Edit`s.  An edit depends on nothing in the
builder, so what a call does is a list of edits and a builder is the fold of its calls' edits.
-/

namespace FluentSql

/-- **Where statements go**: the dialect they are written in and the name of the database. -/
structure Target where
  dialect : Dialect
  database : Option String := none
  deriving DecidableEq, Repr

/-- **A statement** with the values of its placeholders. -/
structure Statement where
  sql : String
  bindings : List Value
  deriving DecidableEq, Repr

/-- **A query in the making.** -/
structure Builder where
  target : Target
  query : Query := {}
  /-- The first error of the calls so far. -/
  error : Option BuildError := none
  /-- The message to fail with when a read finds no row. -/
  notFound : Option String := none
  /-- The page to read, counted from one. -/
  page : Option UInt64 := none
  /-- The number of rows on a page. -/
  perPage : Option UInt64 := none
  /-- Whether a connection shall show the statement with its values. -/
  debug : Bool := false
  deriving DecidableEq, Repr

/-- **A primitive step of building.** -/
inductive Edit
  /-- Adds fragments and values at the end of a clause. -/
  | append (clause : Clause) (fragments : List Fragment) (values : List Value)
  /-- Replaces the contents of a clause by one fragment. -/
  | replace (clause : Clause) (fragment : Fragment) (values : List Value)
  /-- Sets the row lock. -/
  | lock (sql : String)
  /-- Records an error. -/
  | fail (error : BuildError)
  | notFound (message : String)
  | page (number : UInt64)
  | perPage (size : UInt64)
  | debug (on : Bool)
  deriving DecidableEq, Repr

namespace Builder

/-! ## Edits -/

/-- **Applies an edit.**  An error is recorded only when there is none yet. -/
def edit (b : Builder) : Edit → Builder
  | .append c fragments values => { b with query := b.query.append c fragments values }
  | .replace c fragment values => { b with query := b.query.replace c fragment values }
  | .lock sql => { b with query := b.query.setLock (some sql) }
  | .fail e => { b with error := b.error.or (some e) }
  | .notFound message => { b with notFound := some message }
  | .page n => { b with page := some n }
  | .perPage n => { b with perPage := some n }
  | .debug on => { b with debug := on }

/-- Applies edits one after the other. -/
def edits (b : Builder) (es : List Edit) : Builder := es.foldl edit b

@[simp] theorem edits_nil (b : Builder) : b.edits [] = b := rfl

@[simp] theorem edits_cons (b : Builder) (e : Edit) (es : List Edit) :
    b.edits (e :: es) = (b.edit e).edits es := rfl

theorem edits_append (b : Builder) (es fs : List Edit) :
    b.edits (es ++ fs) = (b.edits es).edits fs := List.foldl_append

/-- No edit moves a builder to another target. -/
@[simp] theorem target_edit (b : Builder) (e : Edit) : (b.edit e).target = b.target := by
  cases e <;> rfl

@[simp] theorem target_edits (b : Builder) (es : List Edit) : (b.edits es).target = b.target := by
  induction es generalizing b with
  | nil => rfl
  | cons e es ih => rw [edits_cons, ih, target_edit]

/-- The builder that edits make from nothing. -/
def ofEdits (t : Target) (es : List Edit) : Builder := edits { target := t } es

/-! ## Compiling -/

/-- The SELECT statement as it stands, whatever errors there were. -/
def sql (b : Builder) : String := b.query.select

/-- The values of the SELECT statement. -/
def bindings (b : Builder) : List Value := b.query.bindings

/-- The recorded error, as a failure. -/
def check (b : Builder) : Except BuildError Unit :=
  match b.error with
  | some e => .error e
  | none => .ok ()

/-- **The SELECT statement**, or the recorded error. -/
def compile (b : Builder) : Except BuildError Statement := do
  b.check
  return ⟨b.sql, b.bindings⟩

/-! ## Another database -/

/-- A list of sources with a qualifier in front of the first, if that is plain text and does not
start with it already. -/
def qualifyFirst (qualifier : String) : List Fragment → List Fragment
  | .text table :: rest =>
    if qualifier.toList.isPrefixOf table.toList then .text table :: rest
    else .text (qualifier ++ table) :: rest
  | fragments => fragments

/-- A query with a qualifier in front of its first source. -/
def qualify (qualifier : String) (q : Query) : Query :=
  q.modify (fun p => { p with fragments := qualifyFirst qualifier p.fragments }) .froms

/-- **A builder as a table of another one** — the name of its database goes in front of its first
source when the two databases differ. -/
def qualifiedFor (b : Builder) (parent : Target) : Builder :=
  match b.target.database with
  | none => b
  | some database =>
    if parent.database = some database then b
    else { b with query := qualify (parent.dialect.quoteIdentifier database ++ ".") b.query }

end Builder

namespace Edit

/-- Continues with a result, or records the error in its place. -/
def after {α : Type} (r : Except BuildError α) (next : α → List Edit) : List Edit :=
  match r with
  | .ok a => next a
  | .error e => [.fail e]

/-- Passes on the error of a nested builder. -/
def failure (error : Option BuildError) : List Edit := error.toList.map .fail

/-- One entry of text. -/
def entry (clause : Clause) (sql : String) (values : List Value) : Edit :=
  .append clause [.text sql] values

/-- **One entry of literal text.**  Its own value comes before the others. -/
def rawEntry (clause : Clause) (e : Expression) (values : List Value) : Edit :=
  .append clause [.raw e.bare] (e.values ++ values)

end Edit

end FluentSql
