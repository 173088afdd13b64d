/-!
# Dialect/Basic — the dialects a statement can be written in

Dialects differ in their name, the quote around identifiers, the row locks they have, and whether
they have savepoints.  Everything else is common.
-/

namespace FluentSql

/-- **A dialect.** -/
structure Dialect where
  name : String
  /-- The character on both sides of a quoted identifier. -/
  quote : Char
  /-- The lock clause that keeps other writers and readers out, if there is one. -/
  exclusiveLock : Option String
  /-- The lock clause that keeps only writers out, if there is one. -/
  sharedLock : Option String
  /-- Whether transactions nest by savepoints. -/
  savepoints : Bool
  deriving DecidableEq, Repr

namespace Dialect

/-- Backticks and both row locks. -/
def mysql : Dialect := ⟨"mysql", '`', some "FOR UPDATE", some "LOCK IN SHARE MODE", true⟩

/-- Double quotes, and locks on the whole database only. -/
def sqlite : Dialect := ⟨"sqlite", '"', none, none, true⟩

/-- Backticks, without row locks or savepoints: transactions do not nest. -/
def flat : Dialect := ⟨"flat", '`', none, none, false⟩

end Dialect

end FluentSql
