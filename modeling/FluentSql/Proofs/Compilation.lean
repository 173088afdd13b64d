import FluentSql.Builder.Statement
import FluentSql.Proofs.Record

/-!
# Proofs/Compilation — the statements of a builder as one family

A `Compilation` says which statement to make of a builder and with what.  A property of every
statement is then a property of every compilation.
-/

namespace FluentSql

/-- **What to make of a builder.** -/
inductive Compilation
  | select
  | insert (rows : List (Record Assignment))
  | insertSource (columns : List String) (source : Source)
  | update (values : Record Assignment)
  | delete
  | count
  | existence

/-- **The statement of a compilation.** -/
def Builder.compilation (b : Builder) : Compilation → Except BuildError Statement
  | .select => b.compile
  | .insert rows => b.insertStatement rows
  | .insertSource columns source => b.insertSourceStatement columns source
  | .update values => b.updateStatement values
  | .delete => b.deleteStatement
  | .count => b.countStatement
  | .existence => b.existsStatement

/-- A chain of results that ends in an answer has one at every step. -/
theorem exists_of_bind {ε α β : Type} {r : Except ε α} {f : α → Except ε β} {b : β}
    (h : r >>= f = .ok b) : ∃ a, r = .ok a ∧ f a = .ok b := by
  cases r with
  | error e => cases h
  | ok a => exact ⟨a, rfl, h⟩

end FluentSql
