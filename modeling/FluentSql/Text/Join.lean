/-!
# Text/Join — texts with a separator between them

`joinWith sep` writes the texts of a list one after the other with `sep` between neighbours: no
separator before the first, none after the last.
-/

namespace FluentSql.Text

/-- **Joining** — `joinWith ", " ["a", "b", "c"]` is `a, b, c`. -/
def joinWith (sep : String) : List String → String
  | [] => ""
  | [s] => s
  | s :: t :: rest => s ++ sep ++ joinWith sep (t :: rest)

@[simp] theorem joinWith_nil (sep : String) : joinWith sep [] = "" := rfl

@[simp] theorem joinWith_singleton (sep s : String) : joinWith sep [s] = s := rfl

@[simp] theorem joinWith_cons_cons (sep s t : String) (rest : List String) :
    joinWith sep (s :: t :: rest) = s ++ sep ++ joinWith sep (t :: rest) := rfl

end FluentSql.Text
