import FluentSql.Value.Basic

/-!
# Query/Fragment — the pieces of text a clause is made of

An `Expression` is literal text with at most one value of its own, a `Fragment` is one entry of a
clause: text that is already in its final form, or an expression.
-/

namespace FluentSql

/-- **Literal text** with the value behind its placeholder, if it has one. -/
structure Expression where
  text : String
  bind : Option Value := none
  deriving DecidableEq, Repr

namespace Expression

/-- The expression without its value. -/
def bare (e : Expression) : Expression := ⟨e.text, none⟩

/-- The values of an expression: one or none. -/
def values (e : Expression) : List Value := e.bind.toList

/-- **Two expressions are the same** when their texts are; the values do not count. -/
def same (a b : Expression) : Bool := a.text == b.text

@[simp] theorem bare_text (e : Expression) : e.bare.text = e.text := rfl

@[simp] theorem bare_values (e : Expression) : e.bare.values = [] := rfl

end Expression

/-- **One entry of a clause.** -/
inductive Fragment
  | text (s : String)
  | raw (e : Expression)
  deriving DecidableEq, Repr

namespace Fragment

/-- The text a fragment contributes to its clause. -/
def sql : Fragment → String
  | text s => s
  | raw e => e.text

@[simp] theorem sql_text (s : String) : (text s).sql = s := rfl

@[simp] theorem sql_raw (e : Expression) : (raw e).sql = e.text := rfl

/-- Two fragments are the same when they are of one kind and have one text. -/
def same : Fragment → Fragment → Bool
  | text a, text b => a == b
  | raw a, raw b => a.same b
  | _, _ => false

/-- Whether the fragment is text in its final form. -/
def isText : Fragment → Bool
  | text _ => true
  | raw _ => false

end Fragment

end FluentSql
