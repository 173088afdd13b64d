import FluentSql.Query.Clause
import FluentSql.Query.Fragment

/-!
# Query/Basic — what a query holds before it is written

A `Query` has one `Part` for each clause and perhaps a row lock.  A part keeps its fragments and, on
their own, the values of the fragments' placeholders.  `part` reads a clause and `modify` changes
one; two queries with the same parts and lock are equal.
-/

namespace FluentSql

/-- **The contents of one clause** — fragments in call order, values in placeholder order. -/
structure Part where
  fragments : List Fragment := []
  bindings : List Value := []
  deriving DecidableEq, Repr

namespace Part

/-- Adds fragments and values at the end. -/
def append (p : Part) (fragments : List Fragment) (values : List Value) : Part :=
  ⟨p.fragments ++ fragments, p.bindings ++ values⟩

@[simp] theorem append_fragments (p : Part) (fs : List Fragment) (vs : List Value) :
    (p.append fs vs).fragments = p.fragments ++ fs := rfl

@[simp] theorem append_bindings (p : Part) (fs : List Fragment) (vs : List Value) :
    (p.append fs vs).bindings = p.bindings ++ vs := rfl

/-- Whether the clause holds no fragment, whatever its values. -/
def isEmpty (p : Part) : Bool := p.fragments.isEmpty

/-- The texts of the fragments. -/
def texts (p : Part) : List String := p.fragments.map Fragment.sql

end Part

/-- **A query**: the contents of its ten clauses and the row lock. -/
structure Query where
  columns : Part := {}
  froms : Part := {}
  joins : Part := {}
  wheres : Part := {}
  groups : Part := {}
  havings : Part := {}
  orders : Part := {}
  limits : Part := {}
  offset : Part := {}
  unions : Part := {}
  lock : Option String := none
  deriving DecidableEq, Repr

namespace Query

/-- The contents of a clause. -/
def part (q : Query) : Clause → Part
  | .columns => q.columns
  | .froms => q.froms
  | .joins => q.joins
  | .wheres => q.wheres
  | .groups => q.groups
  | .havings => q.havings
  | .orders => q.orders
  | .limits => q.limits
  | .offset => q.offset
  | .unions => q.unions

/-- The query with the contents of one clause changed. -/
def modify (q : Query) (f : Part → Part) : Clause → Query
  | .columns => { q with columns := f q.columns }
  | .froms => { q with froms := f q.froms }
  | .joins => { q with joins := f q.joins }
  | .wheres => { q with wheres := f q.wheres }
  | .groups => { q with groups := f q.groups }
  | .havings => { q with havings := f q.havings }
  | .orders => { q with orders := f q.orders }
  | .limits => { q with limits := f q.limits }
  | .offset => { q with offset := f q.offset }
  | .unions => { q with unions := f q.unions }

/-- The query with another row lock, or none. -/
def setLock (q : Query) (lock : Option String) : Query := { q with lock := lock }

/-! ## Reading after writing -/

@[simp] theorem part_modify_self (q : Query) (f : Part → Part) (c : Clause) :
    (q.modify f c).part c = f (q.part c) := by cases c <;> rfl

/-- **A change of one clause leaves every other as it is.** -/
theorem part_modify_of_ne (q : Query) (f : Part → Part) {c d : Clause} (h : d ≠ c) :
    (q.modify f c).part d = q.part d := by cases c <;> cases d <;> first | rfl | exact absurd rfl h

@[simp] theorem lock_modify (q : Query) (f : Part → Part) (c : Clause) :
    (q.modify f c).lock = q.lock := by cases c <;> rfl

@[simp] theorem part_setLock (q : Query) (lock : Option String) (c : Clause) :
    (q.setLock lock).part c = q.part c := by cases c <;> rfl

@[simp] theorem lock_setLock (q : Query) (lock : Option String) : (q.setLock lock).lock = lock := rfl

/-- **A query is its parts and its lock.** -/
theorem ext_part {p q : Query} (h : ∀ c, p.part c = q.part c) (hl : p.lock = q.lock) : p = q := by
  cases p; cases q
  simp only at hl
  simp only [mk.injEq]
  exact ⟨h .columns, h .froms, h .joins, h .wheres, h .groups, h .havings, h .orders, h .limits,
    h .offset, h .unions, hl⟩

/-! ## Edits and views -/

/-- Adds fragments and values at the end of a clause. -/
def append (q : Query) (c : Clause) (fragments : List Fragment) (values : List Value) : Query :=
  q.modify (·.append fragments values) c

/-- Empties a clause. -/
def reset (q : Query) (c : Clause) : Query := q.modify (fun _ => {}) c

/-- Replaces the contents of a clause by one fragment and its values. -/
def replace (q : Query) (c : Clause) (fragment : Fragment) (values : List Value) : Query :=
  (q.reset c).append c [fragment] values

/-- **The values of a whole query**, clause after clause in the order of the statement. -/
def bindings (q : Query) : List Value := Clause.all.flatMap fun c => (q.part c).bindings

end Query

end FluentSql
