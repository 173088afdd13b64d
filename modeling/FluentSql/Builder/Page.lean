import FluentSql.Builder.Basic

/-!
# Builder/Page — limits and pages

Pages are counted from one, and page and size are unsigned 64-bit words: an offset beyond them stays
at the largest.
-/

namespace FluentSql

/-- The number of rows on a page when none is set. -/
def defaultPerPage : UInt64 := 15

/-- **The number of rows before a page** — page zero counts as the first, and the product saturates
at the largest word. -/
def pageOffset (page size : UInt64) : UInt64 :=
  UInt64.ofNat (min (UInt64.size - 1) ((max page.toNat 1 - 1) * size.toNat))

/-- **The number of the last page**, at least one; a size of zero counts as one. -/
def lastPage (total size : UInt64) : UInt64 :=
  let size := max size.toNat 1
  UInt64.ofNat (max ((total.toNat + size - 1) / size) 1)

namespace Edit

/-- At most so many rows. -/
def limit (count : UInt64) : Edit := .replace .limits (.text "?") [.ofUInt64 count]

/-- At most so many rows after an offset, both in the limit clause. -/
def limitRange (offset count : UInt64) : Edit :=
  .replace .limits (.text "?, ?") [.ofUInt64 offset, .ofUInt64 count]

/-- Rows after an offset. -/
def offset (count : UInt64) : Edit := .replace .offset (.text "?") [.ofUInt64 count]

/-- A clause replaced by literal text. -/
def replaceRaw (clause : Clause) (e : Expression) : Edit := .replace clause (.raw e.bare) e.values

/-- **The rows of one page.** -/
def forPage (page size : UInt64) : List Edit := [limit size, offset (pageOffset page size)]

end Edit

end FluentSql
