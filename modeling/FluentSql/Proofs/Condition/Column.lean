import FluentSql.Proofs.Condition.Reading
import FluentSql.Proofs.Identifier.Token
import FluentSql.Proofs.Keyword.Name

/-!
# Proofs/Condition/Column — a quoted column reads as part of its predicate

A reader of conditions sees parentheses and connectives only outside quotes, and between the quotes of
an identifier it stays inside, doubled quotes included.  So a text of quoted identifiers, points and
marks shows neither (`Quiet`), and reads as one predicate (`Quiet.ofText?_eq`); a column is quoted as
such a text (`keepsQuiet_column`), but for the names that look quoted and are not (`Dialect.Whole`).
-/

namespace FluentSql

/-! ## Texts without connectives and parentheses -/

namespace Reader

/-- A lexeme that ties nothing and groups nothing. -/
def Lexeme.isQuiet : Lexeme → Bool
  | .token (.word w) => (connective? w).isNone && !isBetween w
  | .token (.mark _) => true
  | .opening | .closing => false

/-- **A text that shows neither a connective nor a parenthesis**, read from outside quotes or from
inside. -/
def Quiet (quote : Option Char) (s : List Char) : Prop :=
  ∃ xs, lex quote s = some xs ∧ ∀ x ∈ xs, x.isQuiet = true

/-- The text of a lexeme. -/
def Lexeme.text : Lexeme → List Char
  | .token t => t.text
  | .opening => ['(']
  | .closing => [')']

theorem flatMap_text_putChar (c : Char) (xs : List Lexeme) :
    (putChar c xs).flatMap Lexeme.text = c :: xs.flatMap Lexeme.text := by
  unfold putChar
  split
  · next h => rw [h]; rfl
  split
  · next h => rw [h]; rfl
  split
  · rcases xs with - | ⟨(w | d) | _ | _, xs⟩ <;> rfl
  · rfl

/-- **Nothing is lost**: the lexemes of a text are the text. -/
theorem flatMap_text_lex {quote : Option Char} {s : List Char} {xs : List Lexeme}
    (h : lex quote s = some xs) : xs.flatMap Lexeme.text = s := by
  induction s generalizing quote xs with
  | nil =>
    cases quote with
    | none => cases h; rfl
    | some q => cases h
  | cons c s ih =>
    cases quote with
    | some q =>
      rw [lex] at h
      obtain ⟨ys, hys, rfl⟩ := Option.map_eq_some_iff.mp h
      exact congrArg (c :: ·) (ih hys)
    | none =>
      rw [lex] at h
      split at h
      · obtain ⟨ys, hys, rfl⟩ := Option.map_eq_some_iff.mp h
        exact congrArg (c :: ·) (ih hys)
      · obtain ⟨ys, hys, rfl⟩ := Option.map_eq_some_iff.mp h
        rw [flatMap_text_putChar, ih hys]

/-- Quiet lexemes are tokens, and nest as they are. -/
theorem exists_tokens {xs : List Lexeme} (h : ∀ x ∈ xs, x.isQuiet = true) :
    ∃ ts : List Token, nest xs = some (ts.map Piece.token, []) ∧
      xs.flatMap Lexeme.text = ts.flatMap Token.text ∧
      ∀ t ∈ ts, (Lexeme.token t).isQuiet = true := by
  induction xs with
  | nil => exact ⟨[], rfl, rfl, fun _ ht => absurd ht List.not_mem_nil⟩
  | cons x xs ih =>
    obtain ⟨hx, hxs⟩ := List.forall_mem_cons.mp h
    obtain ⟨ts, hnest, htext, hquiet⟩ := ih hxs
    cases x with
    | token t =>
      refine ⟨t :: ts, ?_, congrArg (t.text ++ ·) htext, List.forall_mem_cons.mpr ⟨hx, hquiet⟩⟩
      rw [nest, hnest]
      rfl
    | opening | closing => cases hx

/-- **Quiet tokens go on with the predicate at hand.** -/
theorem scan_tokens {ts : List Token} (h : ∀ t ∈ ts, (Lexeme.token t).isQuiet = true)
    (past : Past) (s : List Char) :
    scan ⟨past, .text s, false⟩ (ts.map Piece.token) =
      some ⟨past, .text (s ++ ts.flatMap Token.text), false⟩ := by
  induction ts generalizing s with
  | nil => rw [List.flatMap_nil, List.append_nil]; rfl
  | cons t ts ih =>
    obtain ⟨ht, hts⟩ := List.forall_mem_cons.mp h
    have hstep : Cursor.token ⟨past, .text s, false⟩ t =
        some ⟨past, .text (s ++ t.text), false⟩ := by
      cases t with
      | mark c =>
        rw [Cursor.token]
        split <;> rfl
      | word w =>
        simp only [Lexeme.isQuiet, Bool.and_eq_true, Option.isNone_iff_eq_none,
          Bool.not_eq_true'] at ht
        rw [Cursor.token, ht.1, ht.2]
        rfl
    rw [List.map_cons, scan, Piece.scan, hstep, Option.bind_some, ih hts, List.flatMap_cons,
      List.append_assoc]

/-- **A quiet text without blanks at its ends reads as one predicate.** -/
theorem Quiet.ofText?_eq {c d : Char} {s : List Char} (h : Quiet none (c :: (s ++ [d])))
    (hc : Text.isBlank c = false) (hd : Text.isBlank d = false) :
    Reading.ofText? (String.ofList (c :: (s ++ [d]))) =
      some { final := .predicate (String.ofList (c :: (s ++ [d]))) } := by
  obtain ⟨xs, hxs, hquiet⟩ := h
  obtain ⟨ts, hnest, htext, hts⟩ := exists_tokens hquiet
  rw [flatMap_text_lex hxs] at htext
  have hpieces : pieces? (c :: (s ++ [d])) = some (ts.map Piece.token) :=
    pieces?_eq_some_iff.mpr ⟨xs, hxs, hnest⟩
  have hscan : scan {} (ts.map Piece.token) = some { pending := .text (c :: (s ++ [d])) } := by
    cases ts with
    | nil => cases htext
    | cons t ts =>
      obtain ⟨ht, hts⟩ := List.forall_mem_cons.mp hts
      -- the text begins with no blank, so the first token begins the predicate
      have hfirst : Cursor.token {} t = some { pending := .text t.text } := by
        cases t with
        | mark e =>
          obtain rfl : c = e := (List.cons.inj htext).1
          rw [Cursor.token, if_neg (by simp [hc])]
          rfl
        | word w =>
          simp only [Lexeme.isQuiet, Bool.and_eq_true, Option.isNone_iff_eq_none,
            Bool.not_eq_true'] at ht
          rw [Cursor.token, ht.1, ht.2]
          rfl
      rw [List.map_cons, scan, Piece.scan, hfirst, Option.bind_some, htext, List.flatMap_cons]
      exact scan_tokens hts {} t.text
  have htrim : Text.dropTrailingBlanks (c :: (s ++ [d])) = c :: (s ++ [d]) := by
    have hreverse : (c :: (s ++ [d])).reverse = d :: (c :: s).reverse := by simp
    rw [Text.dropTrailingBlanks, hreverse, List.dropWhile_cons_of_neg (by simp [hd]), ← hreverse,
      List.reverse_reverse]
  refine Reading.ofText?_eq_some_iff.mpr ⟨_, String.toList_ofList ▸ hpieces, _, hscan, ?_⟩
  rw [Cursor.finish?, if_neg Bool.false_ne_true, Pending.formula?, htrim]
  rfl

/-! ## Texts in front of a quiet one -/

/-- **A text that leaves a quiet one behind it quiet.** -/
def KeepsQuiet (s : List Char) : Prop := ∀ u, Quiet none u → Quiet none (s ++ u)

theorem KeepsQuiet.append {s s' : List Char} (h : KeepsQuiet s) (h' : KeepsQuiet s') :
    KeepsQuiet (s ++ s') := fun u hu => by
  rw [List.append_assoc]
  exact h _ (h' u hu)

section

variable {c q : Char} {s u : List Char}

/-- A character in quotes, the closing one included. -/
theorem quiet_quoted (h : Quiet (if c = q then none else some q) s) : Quiet (some q) (c :: s) := by
  obtain ⟨xs, hxs, hquiet⟩ := h
  exact ⟨_, congrArg (Option.map _) hxs, List.forall_mem_cons.mpr ⟨rfl, hquiet⟩⟩

/-- A quote that opens. -/
theorem quiet_open (hq : opensQuote q = true) (h : Quiet (some q) s) : Quiet none (q :: s) := by
  obtain ⟨xs, hxs, hquiet⟩ := h
  refine ⟨.token (.mark q) :: xs, ?_, List.forall_mem_cons.mpr ⟨rfl, hquiet⟩⟩
  rw [lex, if_pos hq, hxs]
  rfl

theorem keepsQuiet_plain (hc : isPlain c = true) : KeepsQuiet [c] := by
  rintro u ⟨xs, hxs, hquiet⟩
  refine ⟨.token (.mark c) :: xs, ?_, List.forall_mem_cons.mpr ⟨rfl, hquiet⟩⟩
  rw [List.singleton_append, lex_plain hc, hxs]
  rfl

/-- No word that begins with a point ties anything. -/
theorem keepsQuiet_point : KeepsQuiet ['.'] := by
  rintro u ⟨xs, hxs, hquiet⟩
  refine ⟨putLetter '.' xs, ?_, ?_⟩
  · rw [List.singleton_append, lex, if_neg (by decide), hxs]
    rfl
  · rcases xs with - | ⟨(w | d) | _ | _, xs⟩
    case nil => exact List.forall_mem_singleton.mpr rfl
    case cons.token.word =>
      exact List.forall_mem_cons.mpr ⟨rfl, (List.forall_mem_cons.mp hquiet).2⟩
    all_goals exact List.forall_mem_cons.mpr ⟨rfl, hquiet⟩

/-- Nor does the word before a label. -/
theorem keepsQuiet_as : KeepsQuiet " AS ".toList := by
  intro u hu
  obtain ⟨xs, hxs, hquiet⟩ := keepsQuiet_plain (c := ' ') (by decide) u hu
  rw [List.singleton_append] at hxs
  refine keepsQuiet_plain (c := ' ') (by decide) ('A' :: 'S' :: ' ' :: u)
    ⟨putLetter 'A' (putLetter 'S' xs), ?_, ?_⟩
  · rw [lex, if_neg (by decide), lex, if_neg (by decide), hxs]
    rfl
  · rw [lex_plain (by decide)] at hxs
    obtain ⟨ys, hys, rfl⟩ := Option.map_eq_some_iff.mp hxs
    exact List.forall_mem_cons.mpr ⟨by decide, hquiet⟩

/-- **A token is quiet from its first quote to its last.** -/
theorem keepsQuiet_token (hq : opensQuote q = true) (h : Dialect.IsToken q s) : KeepsQuiet s := by
  obtain ⟨name, rfl⟩ := Dialect.isToken_iff.mp h
  intro u hu
  have hinside (name : List Char) : Quiet (some q) (Dialect.doubled q name ++ q :: u) := by
    induction name with
    | nil => exact quiet_quoted (by rwa [if_pos rfl])
    | cons c name ih =>
      rw [Dialect.doubled]
      split
      · next hc =>
        subst hc
        have hreopened := quiet_open hq ih
        exact quiet_quoted (by rwa [if_pos rfl])
      · next hc => exact quiet_quoted (by rwa [if_neg hc])
  rw [List.cons_append, List.append_assoc]
  exact quiet_open hq (hinside name)

theorem keepsQuiet_joinPath {ss : List (List Char)} (h : ∀ s ∈ ss, KeepsQuiet s) :
    KeepsQuiet (Dialect.joinPath ss) := by
  induction ss using Dialect.joinPath.induct with
  | case1 => exact fun _ hu => hu
  | case2 s => exact h s List.mem_cons_self
  | case3 s t rest ih =>
    obtain ⟨hs, hrest⟩ := List.forall_mem_cons.mp h
    rw [Dialect.joinPath]
    exact hs.append (keepsQuiet_point.append (ih hrest))

end

end Reader

open Reader

/-! ## Columns -/

/-- **An identifier that is a token if it looks quoted already.** -/
def Dialect.Whole (d : Dialect) (name : List Char) : Prop :=
  isQuoted d.quote (Text.stripBlanks name) = true → IsToken d.quote (Text.stripBlanks name)

instance (d : Dialect) (name : List Char) : Decidable (d.Whole name) :=
  inferInstanceAs (Decidable (_ → _))

namespace Dialect

variable {d : Dialect}

/-- An identifier is written as `*` or as a token. -/
theorem Whole.identifier_cases {name : List Char} (h : d.Whole name) :
    identifier d.quote name = ['*'] ∨ IsToken d.quote (identifier d.quote name) := by
  by_cases hquoted : isQuoted d.quote (Text.stripBlanks name) = true
  · rw [identifier_of_isQuoted hquoted]
    exact .inr (h hquoted)
  · by_cases hstar : Text.stripBlanks name = ['*']
    · exact .inl ((if_pos (.inl hstar)).trans hstar)
    · exact .inr (isToken_iff.mpr ⟨_, identifier_eq hstar (by simpa using hquoted)⟩)

theorem keepsQuiet_identifier (hq : opensQuote d.quote = true) {name : List Char}
    (h : d.Whole name) : KeepsQuiet (identifier d.quote name) := by
  rcases h.identifier_cases with hstar | htoken
  · rw [hstar]
    exact keepsQuiet_plain (by decide)
  · exact keepsQuiet_token hq htoken

/-- **A column is quoted as a quiet text**, with or without a label. -/
theorem keepsQuiet_column (hq : opensQuote d.quote = true) {path : List Char}
    (h : ∀ s ∈ pieces path, d.Whole s) : KeepsQuiet (column d.quote path) := by
  induction path using column.induct with
  | case1 path name label heq ih =>
    rw [pieces, heq] at h
    obtain ⟨hname, hlabel⟩ := List.forall_mem_append.mp h
    rw [column_of_some heq]
    exact ((ih hname).append keepsQuiet_as).append
      (keepsQuiet_identifier hq (hlabel label List.mem_cons_self))
  | case2 path heq =>
    rw [pieces, heq] at h
    rw [column_of_none heq]
    refine keepsQuiet_joinPath fun s hs => ?_
    obtain ⟨segment, hsegment, rfl⟩ := List.mem_map.mp hs
    exact keepsQuiet_identifier hq (h segment hsegment)

/-! ## The first character -/

/-- A quote is no blank. -/
theorem isBlank_of_opensQuote {q : Char} (hq : opensQuote q = true) : Text.isBlank q = false := by
  simp only [opensQuote, Scan.isQuote, Bool.or_eq_true, beq_iff_eq] at hq
  rcases hq with (rfl | rfl) | rfl <;> decide

/-- An identifier begins with no blank. -/
theorem exists_cons_identifier {q : Char} (hq : opensQuote q = true) (name : List Char) :
    ∃ c s, identifier q name = c :: s ∧ Text.isBlank c = false := by
  have hblank := isBlank_of_opensQuote hq
  simp only [identifier]
  split
  · next hpass =>
    rcases hpass with hstar | hquoted
    · exact ⟨'*', [], hstar, by decide⟩
    · obtain ⟨body, hbody⟩ := isQuoted_iff.mp hquoted
      exact ⟨q, _, hbody, hblank⟩
  · exact ⟨q, _, rfl, hblank⟩

/-- A column begins with none. -/
theorem exists_cons_column {q : Char} (hq : opensQuote q = true) (path : List Char) :
    ∃ c s, column q path = c :: s ∧ Text.isBlank c = false := by
  induction path using column.induct with
  | case1 path name label heq ih =>
    obtain ⟨c, s, hcolumn, hc⟩ := ih
    rw [column_of_some heq]
    exact ⟨c, _, by simp only [hcolumn, List.cons_append]; rfl, hc⟩
  | case2 path heq =>
    rw [column_of_none heq]
    obtain ⟨segment, rest, hsegments⟩ := List.exists_cons_of_ne_nil (segments_ne_nil path)
    obtain ⟨c, s, hidentifier, hc⟩ := exists_cons_identifier hq segment
    simp only [hsegments, List.map_cons, hidentifier]
    cases rest with
    | nil => exact ⟨c, s, rfl, hc⟩
    | cons t rest => exact ⟨c, _, rfl, hc⟩

end Dialect

/-- **A quoted column with a test behind it reads as one predicate.** -/
theorem Reading.ofText?_quoteColumn {d : Dialect} (hq : opensQuote d.quote = true) {column : String}
    (h : ∀ s ∈ Dialect.pieces column.toList, d.Whole s) {test : String}
    (htest : Quiet none test.toList) {u : List Char} {e : Char} (hlast : test.toList = u ++ [e])
    (he : Text.isBlank e = false) :
    ofText? (d.quoteColumn column ++ test) =
      some { final := .predicate (d.quoteColumn column ++ test) } := by
  obtain ⟨c, s, hcolumn, hc⟩ := Dialect.exists_cons_column hq column.toList
  have htext : d.quoteColumn column ++ test = String.ofList (c :: ((s ++ u) ++ [e])) := by
    rw [Dialect.quoteColumn, hcolumn, ← String.ofList_toList (s := test), hlast,
      ← String.ofList_append]
    simp
  have hquiet := Dialect.keepsQuiet_column hq h test.toList htest
  rw [hcolumn, hlast, List.cons_append, ← List.append_assoc] at hquiet
  rw [htext]
  exact hquiet.ofText?_eq hc he

end FluentSql
