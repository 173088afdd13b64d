import FluentSql.Proofs.Keyword.Scan

/-!
# Proofs/Condition/Piece — the words and parentheses of a condition

    a = ? and (b or c)  ──lex──▸  words, marks and brackets  ──nest──▸  words, marks and (…)

A condition is read in three goes.  The first two are here: `lex` takes a text apart into words,
parentheses and single characters, what is in quotes being single characters throughout, and `nest`
pairs the parentheses.  A text goes through both just when its quotes close and its parentheses match
(`pieces?`).  Pieces of texts one behind the other add up where no word goes on (`pieces?_append`), and
parentheses around a text make one piece of it (`pieces?_parenthesized`).
-/

namespace FluentSql

namespace Reader

open Scan

/-! ## Lexemes -/

/-- **What is no parenthesis**: a word, or one character that is in no word. -/
inductive Token
  | word (text : List Char)
  | mark (c : Char)
  deriving DecidableEq, Repr

/-- A token or a parenthesis. -/
inductive Lexeme
  | token (t : Token)
  | opening
  | closing
  deriving DecidableEq, Repr

/-- A quote of identifiers or of literal text. -/
def opensQuote (c : Char) : Bool := isQuote c || c == '\''

/-- One more letter in front: it begins the word that follows, if one does. -/
def putLetter (c : Char) : List Lexeme → List Lexeme
  | .token (.word w) :: xs => .token (.word (c :: w)) :: xs
  | xs => .token (.word [c]) :: xs

/-- One more character in front, outside quotes. -/
def putChar (c : Char) (xs : List Lexeme) : List Lexeme :=
  if c = '(' then .opening :: xs
  else if c = ')' then .closing :: xs
  else if isWordChar c then putLetter c xs
  else .token (.mark c) :: xs

/-- **The lexemes of a text**, read from inside a quote or from outside; none if a quote stays
open. -/
def lex : Option Char → List Char → Option (List Lexeme)
  | none, [] => some []
  | some _, [] => none
  | some q, c :: s => (lex (if c = q then none else some q) s).map (.token (.mark c) :: ·)
  | none, c :: s =>
    if opensQuote c then (lex (some c) s).map (.token (.mark c) :: ·)
    else (lex none s).map (putChar c)

/-! ## Nesting -/

/-- **What a condition is made of**: tokens, and what stands in parentheses. -/
inductive Piece
  | token (t : Token)
  | paren (inside : List Piece)

/-- **Lexemes with their parentheses paired**: the pieces up to the first parenthesis closed that was
not opened, and those behind it, and behind each further one; none if one opened is not closed. -/
def nest : List Lexeme → Option (List Piece × List (List Piece))
  | [] => some ([], [])
  | .token t :: xs => (nest xs).map fun l => (.token t :: l.1, l.2)
  | .closing :: xs => (nest xs).map fun l => ([], l.1 :: l.2)
  | .opening :: xs =>
    match nest xs with
    | some (inside, around :: rest) => some (.paren inside :: around, rest)
    | _ => none

/-- **The pieces of a text**, if its quotes close and its parentheses match. -/
def pieces? (s : List Char) : Option (List Piece) :=
  match (lex none s).bind nest with
  | some (ps, []) => some ps
  | _ => none

/-! ## Lexemes one behind the other -/

section Lexemes

variable {c : Char} {xs ys : List Lexeme}

/-- Lexemes that go on with no word. -/
def Breaks (ys : List Lexeme) : Prop := ∀ w, ys.head? ≠ some (.token (.word w))

theorem putLetter_append (h : Breaks ys) (c : Char) (xs : List Lexeme) :
    putLetter c (xs ++ ys) = putLetter c xs ++ ys := by
  rcases xs with - | ⟨(w | d) | _ | _, xs⟩
  · rcases ys with - | ⟨(w | d) | _ | _, ys⟩
    case cons.token.word => exact absurd rfl (h w)
    all_goals rfl
  all_goals rfl

/-- What stands behind a break does not change what stands before it. -/
theorem putChar_append (h : Breaks ys) (c : Char) (xs : List Lexeme) :
    putChar c (xs ++ ys) = putChar c xs ++ ys := by
  unfold putChar
  rw [putLetter_append h]
  split
  · rfl
  split
  · rfl
  split <;> rfl

/-- A letter outside quotes and parentheses. -/
theorem putChar_letter (hc : isWordChar c = true) (hopen : c ≠ '(') (hclose : c ≠ ')')
    (xs : List Lexeme) : putChar c xs = putLetter c xs := by
  rw [putChar, if_neg hopen, if_neg hclose, if_pos hc]

/-- A character that is in no word, outside quotes and parentheses. -/
theorem putChar_mark (hc : isWordChar c = false) (hopen : c ≠ '(') (hclose : c ≠ ')')
    (xs : List Lexeme) : putChar c xs = .token (.mark c) :: xs := by
  rw [putChar, if_neg hopen, if_neg hclose, if_neg (Bool.not_eq_true _ ▸ hc)]

/-- A character that is in no word is a break. -/
theorem breaks_lex (hc : isWordChar c = false) {u : List Char} (h : lex none (c :: u) = some ys) :
    Breaks ys := by
  intro w hw
  rw [lex] at h
  split at h
  · obtain ⟨zs, _, rfl⟩ := Option.map_eq_some_iff.mp h
    cases hw
  · obtain ⟨zs, _, rfl⟩ := Option.map_eq_some_iff.mp h
    unfold putChar at hw
    rw [hc] at hw
    split at hw
    · cases hw
    split at hw <;> cases hw

/-- **Lexemes of texts one behind the other add up** where the second does not go on with a word. -/
theorem lex_append (hc : isWordChar c = false) {u : List Char} (hu : lex none (c :: u) = some ys)
    {quote : Option Char} {s : List Char} (hs : lex quote s = some xs) :
    lex quote (s ++ c :: u) = some (xs ++ ys) := by
  induction s generalizing quote xs with
  | nil =>
    cases quote with
    | some q => cases hs
    | none =>
      cases hs
      exact hu
  | cons d s ih =>
    rw [List.cons_append]
    cases quote with
    | some q =>
      rw [lex] at hs ⊢
      obtain ⟨zs, hzs, rfl⟩ := Option.map_eq_some_iff.mp hs
      rw [ih hzs]
      rfl
    | none =>
      rw [lex] at hs ⊢
      split at hs
      · next hd =>
        obtain ⟨zs, hzs, rfl⟩ := Option.map_eq_some_iff.mp hs
        rw [if_pos hd, ih hzs]
        rfl
      · next hd =>
        obtain ⟨zs, hzs, rfl⟩ := Option.map_eq_some_iff.mp hs
        rw [if_neg hd, ih hzs, Option.map_some, putChar_append (breaks_lex hc hu)]

/-- A character that is in no word and opens nothing. -/
def isPlain (c : Char) : Bool := !isWordChar c && !opensQuote c && c != '(' && c != ')'

theorem lex_plain (h : isPlain c = true) (s : List Char) :
    lex none (c :: s) = (lex none s).map (.token (.mark c) :: ·) := by
  simp only [isPlain, Bool.and_eq_true, Bool.not_eq_true', bne_iff_ne] at h
  obtain ⟨⟨⟨hword, hquote⟩, hopen⟩, hclose⟩ := h
  rw [lex, if_neg (Bool.not_eq_true _ ▸ hquote), funext (putChar_mark hword hopen hclose)]

/-- A character of a word opens nothing. -/
theorem isWordChar_of_special (h : opensQuote c = true ∨ c = '(' ∨ c = ')') :
    isWordChar c = false := by
  have hspecial : ((c = '`' ∨ c = '"') ∨ c = '\'') ∨ c = '(' ∨ c = ')' := by
    simpa [opensQuote, isQuote] using h
  rcases hspecial with ((rfl | rfl) | rfl) | rfl | rfl <;> decide

theorem isPlain_of_isBlank (h : Text.isBlank c = true) : isPlain c = true := by
  have hne : ∀ d : Char, Text.isBlank d = false → c ≠ d := fun d hd heq => by
    rw [← heq, h] at hd
    cases hd
  have hquote : opensQuote c = false := by
    simp [opensQuote, isQuote, hne '`' (by decide), hne '"' (by decide), hne '\'' (by decide)]
  simp [isPlain, isWordChar, h, hquote, hne '(' (by decide), hne ')' (by decide)]

/-- **A word is one lexeme.** -/
theorem lex_word {w : List Char} (hne : w ≠ []) (h : ∀ c ∈ w, isWordChar c = true) :
    lex none w = some [.token (.word w)] := by
  induction w with
  | nil => exact absurd rfl hne
  | cons c w ih =>
    obtain ⟨hc, hw⟩ := List.forall_mem_cons.mp h
    have hspecial : ¬(opensQuote c = true ∨ c = '(' ∨ c = ')') := fun hspecial => by
      rw [isWordChar_of_special hspecial] at hc
      cases hc
    simp only [not_or] at hspecial
    obtain ⟨hquote, hopen, hclose⟩ := hspecial
    rw [lex, if_neg hquote, funext (putChar_letter hc hopen hclose)]
    rcases eq_or_ne w [] with rfl | hw'
    · rfl
    · rw [ih hw' hw]
      rfl

end Lexemes

/-! ## Pieces one behind the other -/

/-- The pieces of two texts, the second going on at the level where the first ends. -/
def glue : List Piece → List (List Piece) → List Piece × List (List Piece) →
    List Piece × List (List Piece)
  | ps, [], l => (ps ++ l.1, l.2)
  | ps, qs :: rest, l => (ps, (glue qs rest l).1 :: (glue qs rest l).2)

theorem glue_cons (p : Piece) (ps : List Piece) (rest : List (List Piece))
    (l : List Piece × List (List Piece)) :
    glue (p :: ps) rest l = (p :: (glue ps rest l).1, (glue ps rest l).2) := by
  cases rest <;> rfl

/-- **Lexemes one behind the other are nested one behind the other.** -/
theorem nest_append {xs : List Lexeme} {ps : List Piece} {rest : List (List Piece)}
    (h : nest xs = some (ps, rest)) (ys : List Lexeme) :
    nest (xs ++ ys) = (nest ys).map (glue ps rest) := by
  induction xs generalizing ps rest with
  | nil =>
    cases h
    exact (congrFun Option.map_id (nest ys)).symm
  | cons x xs ih =>
    rw [List.cons_append]
    cases x with
    | token t =>
      obtain ⟨⟨qs, more⟩, hxs, heq⟩ := Option.map_eq_some_iff.mp h
      cases heq
      rw [nest, ih hxs, Option.map_map]
      exact congrArg (Option.map · (nest ys)) (funext fun l => (glue_cons ..).symm)
    | closing =>
      obtain ⟨⟨qs, more⟩, hxs, heq⟩ := Option.map_eq_some_iff.mp h
      cases heq
      rw [nest, ih hxs, Option.map_map]
      rfl
    | opening =>
      rw [nest] at h
      split at h
      · next inside around more hxs =>
        cases h
        rw [nest, ih hxs]
        cases nest ys with
        | none => rfl
        | some l => exact congrArg some (glue_cons ..).symm
      · cases h

section Pieces

variable {s u : List Char} {ps qs : List Piece} {c : Char}

/-- A text with pieces has lexemes that nest. -/
theorem pieces?_eq_some_iff :
    pieces? s = some ps ↔ ∃ xs, lex none s = some xs ∧ nest xs = some (ps, []) := by
  rw [← Option.bind_eq_some_iff, pieces?]
  cases (lex none s).bind nest with
  | none => simp
  | some l => rcases l with ⟨qs, - | ⟨more, rest⟩⟩ <;> simp

/-- **Pieces of texts one behind the other add up** where the second does not go on with a word. -/
theorem pieces?_append (hc : isWordChar c = false) (hs : pieces? s = some ps)
    (hu : pieces? (c :: u) = some qs) : pieces? (s ++ c :: u) = some (ps ++ qs) := by
  obtain ⟨xs, hxs, hps⟩ := pieces?_eq_some_iff.mp hs
  obtain ⟨ys, hys, hqs⟩ := pieces?_eq_some_iff.mp hu
  refine pieces?_eq_some_iff.mpr ⟨xs ++ ys, lex_append hc hys hxs, ?_⟩
  rw [nest_append hps, hqs]
  rfl

/-- A character that is in no word and opens nothing is a piece. -/
theorem pieces?_plain (hc : isPlain c = true) (s : List Char) :
    pieces? (c :: s) = (pieces? s).map (.token (.mark c) :: ·) := by
  rw [pieces?, pieces?, lex_plain hc]
  cases lex none s with
  | none => rfl
  | some xs =>
    rw [Option.map_some, Option.bind_some, Option.bind_some, nest]
    cases nest xs with
    | none => rfl
    | some l => rcases l with ⟨ps, - | ⟨more, rest⟩⟩ <;> rfl

/-- **A word is one piece.** -/
theorem pieces?_word (hne : s ≠ []) (h : ∀ c ∈ s, isWordChar c = true) :
    pieces? s = some [.token (.word s)] :=
  pieces?_eq_some_iff.mpr ⟨_, lex_word hne h, rfl⟩

/-- **A text in parentheses is one piece.** -/
theorem pieces?_parenthesized (h : pieces? s = some ps) :
    pieces? ('(' :: (s ++ [')'])) = some [.paren ps] := by
  obtain ⟨xs, hxs, hps⟩ := pieces?_eq_some_iff.mp h
  have hlex : lex none (s ++ [')']) = some (xs ++ [.closing]) :=
    lex_append (by decide) rfl hxs
  refine pieces?_eq_some_iff.mpr ⟨.opening :: (xs ++ [.closing]), ?_, ?_⟩
  · rw [lex, if_neg (by decide), hlex]
    rfl
  · rw [nest, nest_append hps]
    simp [nest, glue]

end Pieces

end Reader

end FluentSql
