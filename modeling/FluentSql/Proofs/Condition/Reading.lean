import FluentSql.Proofs.Condition.Formula
import FluentSql.Proofs.Condition.Piece
import FluentSql.Proofs.Condition.Tree
import Mathlib.Data.List.Forall2

/-!
# Proofs/Condition/Reading — a condition is read from its text

    a = ? and (b or c) OR d BETWEEN ? AND ?
      ──ofText?──▸  (a = ?  ∧  (b ∨ c))  ∨  d BETWEEN ? AND ?

The last of the three goes goes through the pieces from left to right (`scan`): `and` and `or` end the
predicate before them, in any case, but for the `and` that belongs to a `between`; a predicate that is
nothing but parentheses around a condition is that condition.  `Reading.ofText?` is all three together.

Reading is compositional.  The text of one list of conditions behind another reads as the two joined
(`ofText?_join`), and in parentheses as one condition (`ofText?_parenthesized`), so that a tree of
conditions, written without a hint of its nesting but for the parentheses, is read as the tree it is
(`ofText?_renderConditions`).
-/

namespace FluentSql

namespace Reader

/-! ## The predicate at hand -/

/-- **What was read of the predicate at hand**, without the blanks before it. -/
inductive Pending
  | nothing
  /-- A condition in parentheses, and no more than blanks behind it. -/
  | group (f : Formula) (text : List Char)
  | text (s : List Char)
  deriving DecidableEq, Repr

namespace Pending

/-- Its text. -/
def read : Pending → List Char
  | nothing => []
  | group _ s | text s => s

/-- More of it. -/
def put (s : List Char) (p : Pending) : Pending := text (p.read ++ s)

/-- A blank behind it. -/
def space (c : Char) : Pending → Pending
  | nothing => nothing
  | group f s => group f (s ++ [c])
  | text s => text (s ++ [c])

/-- **The condition it is**, if it is more than blanks. -/
def formula? : Pending → Option Formula
  | nothing => none
  | group f _ => some f
  | text s => some (.predicate (String.ofList (Text.dropTrailingBlanks s)))

end Pending

/-- The connective that a word is, in any case. -/
def connective? (w : List Char) : Option Connective :=
  [Connective.and, .or].find? fun k => k.rawKeyword.toList == w.map Char.toLower

/-- Whether a word is `between`, in any case. -/
def isBetween (w : List Char) : Bool := "between".toList == w.map Char.toLower

/-! ## Going through the pieces -/

/-- **A reader in the middle of a list of conditions.** -/
structure Cursor where
  past : Past := {}
  pending : Pending := .nothing
  /-- Whether the next `and` belongs to a `between` before it. -/
  between : Bool := false
  deriving DecidableEq, Repr

namespace Cursor

/-- **The conditions read**, if the predicate at hand can end here. -/
def finish? (cur : Cursor) : Option Reading :=
  if cur.between then none else cur.pending.formula?.map (⟨cur.past, ·⟩)

/-- A connective further; none if no predicate can end before it. -/
def link (cur : Cursor) (w : List Char) (k : Connective) : Option Cursor :=
  if k = .and ∧ cur.between = true then
    some { cur with pending := cur.pending.put w, between := false }
  else cur.finish?.map fun r => { past := r.past.link r.final k }

/-- A token further. -/
def token (cur : Cursor) : Token → Option Cursor
  | .mark c => some { cur with
      pending := if Text.isBlank c then cur.pending.space c else cur.pending.put [c] }
  | .word w =>
    match connective? w with
    | some k => cur.link w k
    | none => some { cur with
        pending := cur.pending.put w, between := cur.between || isBetween w }

/-- A parenthesis further, with its text and what it reads as. -/
def enclose (cur : Cursor) (s : List Char) (inside : Option Reading) : Cursor :=
  { cur with pending := match cur.pending, inside with
      | .nothing, some r => .group r.formula s
      | p, _ => p.put s }

end Cursor

/-- The text of a token. -/
def Token.text : Token → List Char
  | word s => s
  | mark c => [c]

mutual

/-- The text of a piece. -/
def Piece.text : Piece → List Char
  | .token t => t.text
  | .paren inside => '(' :: (textOf inside ++ [')'])

/-- The text of pieces. -/
def textOf : List Piece → List Char
  | [] => []
  | p :: ps => p.text ++ textOf ps

end

mutual

/-- **A piece further**; a parenthesis is read on its own. -/
def Piece.scan (cur : Cursor) : Piece → Option Cursor
  | .token t => cur.token t
  | .paren inside =>
    some (cur.enclose ('(' :: (textOf inside ++ [')'])) ((scan {} inside).bind Cursor.finish?))

/-- **Goes through pieces from left to right.** -/
def scan (cur : Cursor) : List Piece → Option Cursor
  | [] => some cur
  | p :: ps => (p.scan cur).bind fun cur => scan cur ps

end

end Reader

open Reader

/-- **The conditions that a text is**, as AND and OR tie them and parentheses group them; none if its
quotes or parentheses do not match or a predicate is missing. -/
def Reading.ofText? (s : String) : Option Reading :=
  (pieces? s.toList).bind fun ps => (scan {} ps).bind Cursor.finish?

example : Reading.ofText? "a = ? and (b or c) OR d BETWEEN ? AND ?" =
    some ⟨⟨[.and (.predicate "a = ?") (.or (.predicate "b") (.predicate "c"))], []⟩,
      .predicate "d BETWEEN ? AND ?"⟩ := by decide +kernel

namespace Reader

/-! ## Reading on -/

section

variable {cur : Cursor} {r : Reading} {c : Char}

namespace Cursor

/-- The cursor with more read before it. -/
def behind (p : Past) (cur : Cursor) : Cursor := { cur with past := p ++ cur.past }

theorem finish?_behind (p : Past) (cur : Cursor) :
    (cur.behind p).finish? = cur.finish?.map (·.behind p) := by
  obtain ⟨past, pending, between⟩ := cur
  cases between with
  | true => rfl
  | false => exact (Option.map_map (Reading.behind p) (Reading.mk past) pending.formula?).symm

theorem link_behind (p : Past) (cur : Cursor) (w : List Char) (k : Connective) :
    (cur.behind p).link w k = (cur.link w k).map (·.behind p) := by
  by_cases hbetween : k = .and ∧ cur.between = true
  · have hbehind : k = .and ∧ (cur.behind p).between = true := hbetween
    rw [link, link, if_pos hbetween, if_pos hbehind]
    rfl
  · have hbehind : ¬(k = .and ∧ (cur.behind p).between = true) := hbetween
    rw [link, link, if_neg hbetween, if_neg hbehind, finish?_behind, Option.map_map, Option.map_map]
    exact congrArg (Option.map · cur.finish?)
      (funext fun r => congrArg (fun q => ({ past := q } : Cursor)) (Past.append_link ..))

/-- **A token is taken alike whatever was read before.** -/
theorem token_behind (p : Past) (cur : Cursor) (t : Token) :
    (cur.behind p).token t = (cur.token t).map (·.behind p) := by
  cases t with
  | mark c => rfl
  | word w =>
    rw [token, token]
    cases connective? w with
    | none => rfl
    | some k => exact cur.link_behind p w k

/-- A blank behind the predicate at hand changes nothing of what is read. -/
theorem finish?_space (h : Text.isBlank c = true) (cur : Cursor) :
    ({ cur with pending := cur.pending.space c } : Cursor).finish? = cur.finish? := by
  obtain ⟨past, pending, between⟩ := cur
  cases pending with
  | nothing | group _ _ => rfl
  | text s =>
    have htrim : Text.dropTrailingBlanks (s ++ [c]) = Text.dropTrailingBlanks s := by
      rw [Text.dropTrailingBlanks, List.reverse_append]
      exact congrArg List.reverse (List.dropWhile_cons_of_pos h)
    simp only [finish?, Pending.space, Pending.formula?, htrim]

theorem token_blank (h : Text.isBlank c = true) (cur : Cursor) :
    cur.token (.mark c) = some { cur with pending := cur.pending.space c } := by
  rw [token, if_pos h]

/-- **Where a list can end, a connective goes on with it.** -/
theorem token_connective {w : List Char} {k : Connective} (hw : connective? w = some k)
    (h : cur.finish? = some r) :
    cur.token (.word w) = some { past := r.past.link r.final k } := by
  have hbetween : cur.between = false := by
    cases hb : cur.between with
    | false => rfl
    | true => simp [finish?, hb] at h
  simp [token, link, hw, h, hbetween]

end Cursor

/-- **Pieces are read alike whatever was read before.** -/
theorem scan_behind (p : Past) (cur : Cursor) (ps : List Piece) :
    scan (cur.behind p) ps = (scan cur ps).map (·.behind p) := by
  have hpiece (cur : Cursor) (q : Piece) : q.scan (cur.behind p) = (q.scan cur).map (·.behind p) := by
    cases q with
    | token t => exact cur.token_behind p t
    | paren inside => rfl
  induction ps generalizing cur with
  | nil => rfl
  | cons q ps ih =>
    rw [scan, scan, hpiece]
    cases q.scan cur with
    | none => rfl
    | some next => exact ih next

theorem scan_append (cur : Cursor) (ps qs : List Piece) :
    scan cur (ps ++ qs) = (scan cur ps).bind (scan · qs) := by
  induction ps generalizing cur with
  | nil => rfl
  | cons q ps ih =>
    rw [List.cons_append, scan, scan]
    cases q.scan cur with
    | none => rfl
    | some next => exact ih next

end

end Reader

/-- **A member of a level that reads as a connective and a list of conditions.** -/
structure Member.Reads (m : Member) (x : Connective × Reading) : Prop where
  word : m.word = x.1.keyword ∨ m.word = x.1.rawKeyword
  text : Reading.ofText? m.text = some x.2

namespace Reading

variable {r : Reading} {s : String}

theorem ofText?_eq_some_iff :
    ofText? s = some r ↔ ∃ ps, pieces? s.toList = some ps ∧
      ∃ cur, scan {} ps = some cur ∧ cur.finish? = some r := by
  simp only [ofText?, Option.bind_eq_some_iff]

/-! ## One text behind another -/

/-- **Blanks before a text are not read.** -/
theorem ofText?_dropBlanks (s : String) :
    ofText? (String.ofList (Text.dropBlanks s.toList)) = ofText? s := by
  rw [ofText?, ofText?, String.toList_ofList]
  induction s.toList with
  | nil => rfl
  | cons c cs ih =>
    by_cases hc : Text.isBlank c = true
    · rw [Text.dropBlanks, List.dropWhile_cons_of_pos hc, pieces?_plain (isPlain_of_isBlank hc),
        Option.bind_map]
      refine ih.trans (congrArg (Option.bind (pieces? cs)) (funext fun ps => ?_))
      rw [Function.comp, scan, Piece.scan, Cursor.token_blank hc]
      rfl
    · rw [Text.dropBlanks, List.dropWhile_cons_of_neg hc]

/-- The word of a connective is one piece, and is read as the connective. -/
theorem connective?_word {w : String} {k : Connective} (h : w = k.keyword ∨ w = k.rawKeyword) :
    connective? w.toList = some k ∧ w.toList ≠ [] ∧ ∀ c ∈ w.toList, Scan.isWordChar c = true := by
  rw [← List.all_eq_true]
  rcases h with rfl | rfl <;> cases k <;> decide

/-- **A member behind a list of conditions is tied on by its connective.** -/
theorem ofText?_join (hs : ofText? s = some r) {m : Member} {x : Connective × Reading}
    (hm : m.Reads x) : ofText? (s ++ (" " ++ m.sql)) = some (r.join x.1 x.2) := by
  obtain ⟨ps, hps, cur, hcur, hr⟩ := ofText?_eq_some_iff.mp hs
  obtain ⟨qs, hqs, next, hnext, hx⟩ := ofText?_eq_some_iff.mp hm.text
  obtain ⟨hword, hne, hchars⟩ := connective?_word hm.word
  have htext : (s ++ (" " ++ m.sql)).toList =
      s.toList ++ ' ' :: (m.word.toList ++ ' ' :: m.text.toList) := by
    simp [Member.sql]
  have hblank : pieces? (' ' :: m.text.toList) = some (.token (.mark ' ') :: qs) := by
    rw [pieces?_plain (by decide), hqs]
    rfl
  have htail := pieces?_append (by decide) (pieces?_word hne hchars) hblank
  have hpieces : pieces? (s ++ (" " ++ m.sql)).toList = some (ps ++ .token (.mark ' ') ::
      .token (.word m.word.toList) :: .token (.mark ' ') :: qs) := by
    rw [htext]
    refine pieces?_append (by decide) hps ?_
    rw [pieces?_plain (by decide), htail]
    rfl
  refine ofText?_eq_some_iff.mpr ⟨_, hpieces, next.behind (r.past.link r.final x.1), ?_, ?_⟩
  · have hend := hr
    rw [← Cursor.finish?_space (c := ' ') (by decide)] at hend
    rw [scan_append, hcur, Option.bind_some, scan, Piece.scan, Cursor.token_blank (by decide),
      Option.bind_some, scan, Piece.scan, Cursor.token_connective hword hend, Option.bind_some, scan,
      Piece.scan, Cursor.token_blank (by decide), Option.bind_some]
    have hstart : ({ past := r.past.link r.final x.1 } : Cursor) =
        ({} : Cursor).behind (r.past.link r.final x.1) :=
      congrArg (fun q => ({ past := q } : Cursor)) (Past.append_nil _).symm
    refine Eq.trans ?_ ((scan_behind _ {} qs).trans (congrArg (Option.map _) hnext))
    exact congrArg (scan · qs) hstart
  · rw [Cursor.finish?_behind, hx]
    rfl

/-- **A text in parentheses reads as one condition.** -/
theorem ofText?_parenthesized (h : ofText? s = some r) :
    ofText? ("(" ++ s ++ ")") = some { final := r.formula } := by
  obtain ⟨ps, hps, cur, hcur, hr⟩ := ofText?_eq_some_iff.mp h
  have htext : ("(" ++ s ++ ")").toList = '(' :: (s.toList ++ [')']) := by simp
  refine ofText?_eq_some_iff.mpr ⟨[.paren ps], htext ▸ pieces?_parenthesized hps, ?_⟩
  rw [scan, Piece.scan, hcur, Option.bind_some, Option.bind_some, hr]
  exact ⟨_, rfl, rfl⟩

/-! ## Trees -/

/-- **A level reads as its members tied by their connectives**, the first one's left out. -/
theorem ofText?_renderLevel {ms : List Member} {xs : List (Connective × Reading)}
    (h : List.Forall₂ Member.Reads ms xs) :
    (renderLevel ms).map ofText? = (joinAll xs).map some := by
  cases h with
  | nil => rfl
  | @cons m x ms xs hm hms =>
    have hrest (s : String) (r : Reading) (hs : ofText? s = some r) :
        ofText? (s ++ String.join (ms.map fun m => " " ++ m.sql)) =
          some (xs.foldl (fun r y => r.join y.1 y.2) r) := by
      induction hms generalizing s r with
      | nil => simpa using hs
      | cons hm hms ih =>
        rw [List.map_cons, String.join_cons, ← String.append_assoc]
        exact ih _ _ (ofText?_join hs hm)
    exact congrArg some (hrest _ _ ((ofText?_dropBlanks m.text).trans hm.text))

end Reading

open Reading

mutual

/-- **What a condition of a tree reads as**, with its connective. -/
def Condition.reading? : Condition → Option (Connective × Reading)
  | .structured link text | .raw link text => (ofText? text).map (link, ·)
  | .group link conditions =>
    (joinAll (readings conditions)).map fun r => (link, { final := r.formula })

/-- What the conditions of a level read as. -/
def readings : List Condition → List (Connective × Reading)
  | [] => []
  | c :: cs => c.reading?.toList ++ readings cs

end

mutual

/-- The texts of the predicates of a condition. -/
def Condition.texts : Condition → List String
  | .structured _ text | .raw _ text => [text]
  | .group _ conditions => leafTexts conditions

/-- **The texts of the predicates of a tree.** -/
def leafTexts : List Condition → List String
  | [] => []
  | c :: cs => c.texts ++ leafTexts cs

end

@[simp] theorem readings_nil : readings [] = [] := by rw [readings]

@[simp] theorem readings_append (cs ds : List Condition) :
    readings (cs ++ ds) = readings cs ++ readings ds := by
  induction cs with
  | nil => rfl
  | cons c cs ih => rw [List.cons_append, readings, readings, ih, List.append_assoc]

theorem leafTexts_append (cs ds : List Condition) :
    leafTexts (cs ++ ds) = leafTexts cs ++ leafTexts ds := by
  induction cs with
  | nil => rw [leafTexts, List.nil_append, List.nil_append]
  | cons c cs ih => rw [List.cons_append, leafTexts, leafTexts, ih, List.append_assoc]

mutual

/-- A condition is written as it reads. -/
theorem Condition.member?_reads (c : Condition) (h : ∀ text ∈ c.texts, (ofText? text).isSome) :
    List.Forall₂ Member.Reads c.member?.toList c.reading?.toList := by
  cases c with
  | structured link text =>
    obtain ⟨r, hr⟩ := Option.isSome_iff_exists.mp (h text (List.mem_singleton_self text))
    rw [Condition.member?, Condition.reading?, hr]
    exact .cons ⟨.inl rfl, hr⟩ .nil
  | raw link text =>
    obtain ⟨r, hr⟩ := Option.isSome_iff_exists.mp (h text (List.mem_singleton_self text))
    rw [Condition.member?, Condition.reading?, hr]
    exact .cons ⟨.inr rfl, hr⟩ .nil
  | group link conditions =>
    rw [Condition.texts] at h
    have hlevel := ofText?_renderLevel (members_read conditions h)
    rw [Condition.member?, Condition.reading?]
    cases hs : renderLevel (members conditions) with
    | none =>
      rw [hs] at hlevel
      rw [Option.map_eq_none_iff.mp hlevel.symm]
      exact .nil
    | some s =>
      rw [hs] at hlevel
      obtain ⟨r, hr, heq⟩ := Option.map_eq_some_iff.mp hlevel.symm
      rw [hr]
      exact .cons ⟨.inl rfl, ofText?_parenthesized heq.symm⟩ .nil

/-- **The members of a level are written as they read.** -/
theorem members_read (cs : List Condition) (h : ∀ text ∈ leafTexts cs, (ofText? text).isSome) :
    List.Forall₂ Member.Reads (members cs) (readings cs) := by
  cases cs with
  | nil => rw [members, readings]; exact .nil
  | cons c cs =>
    rw [leafTexts, List.forall_mem_append] at h
    rw [members, readings]
    exact List.rel_append (c.member?_reads h.1) (members_read cs h.2)

end

/-- **A tree is read as it was written**: the conditions of one level tied by their connectives, AND
before OR, and a group on its own. -/
theorem ofText?_renderConditions {cs : List Condition}
    (h : ∀ text ∈ leafTexts cs, (ofText? text).isSome) :
    (renderConditions cs).map ofText? = (joinAll (readings cs)).map some :=
  ofText?_renderLevel (members_read cs h)

end FluentSql
