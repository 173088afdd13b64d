import FluentSql.Proofs.Connective
import FluentSql.Proofs.Operator

/-!
# Proofs/Keyword/Scan — the clause keywords of a text, outside quotes and parentheses

    SELECT `from` FROM (SELECT 1) AS `x`  ──outside──▸  SELECT        FROM            AS

A scan blanks what stands in quotes or in parentheses, and `keywords` are the clause keywords among
the words that are left.  A text is closed when the quotes and parentheses that open in it close in it
(`Closed`).  Behind a closed text a scan is where it was before (`closes_append`, `outside_append`), so
at a break between two words the keywords of texts add up (`keywords_append_of_last`,
`keywords_append_of_first`); and in parentheses a closed text shows nothing (`Sealed.parenthesized`).
-/

namespace FluentSql

namespace Scan

/-! ## The scan -/

/-- A quote of identifiers. -/
def isQuote (c : Char) : Bool := c == '`' || c == '"'

/-- A quote or a parenthesis. -/
def isMark (c : Char) : Bool := isQuote c || c == '(' || c == ')'

/-- **Where a scan is**: in an open quote or in none, and how many parentheses deep. -/
structure Place where
  quote : Option Char := none
  depth : Nat := 0
  deriving DecidableEq, Repr

namespace Place

/-- Outside all quotes and parentheses. -/
def outer : Place := {}

/-- Where a scan is behind a character. -/
def next (p : Place) (c : Char) : Place :=
  match p.quote with
  | some q => if c = q then ⟨none, p.depth⟩ else p
  | none =>
    if isQuote c then ⟨some c, p.depth⟩
    else if c = '(' then ⟨none, p.depth + 1⟩
    else if c = ')' then ⟨none, p.depth - 1⟩
    else p

/-- Whether a character closes a parenthesis that is not open. -/
def overruns (p : Place) (c : Char) : Bool := p.quote.isNone && p.depth == 0 && c == ')'

/-- What is seen of a character from outside. -/
def look (p : Place) (c : Char) : Char := if p = outer ∧ isMark c = false then c else ' '

/-- The same place so many parentheses deeper. -/
def within (p : Place) (k : Nat) : Place := ⟨p.quote, k + p.depth⟩

end Place

/-- **A text as it is seen from outside** quotes and parentheses, which a scan from some place finds. -/
def outside (p : Place) : List Char → List Char
  | [] => []
  | c :: s => p.look c :: outside (p.next c) s

/-- **Whether a scan from some place ends outside**, with no parenthesis closed that was not open. -/
def closes (p : Place) : List Char → Bool
  | [] => p == .outer
  | c :: s => !p.overruns c && closes (p.next c) s

/-! ## Words -/

/-- A character of a word: letters, digits, the point of a path, and all beyond ASCII but blanks. -/
def isWordChar (c : Char) : Bool :=
  !Text.isBlank c && (c.isAlphanum || c == '_' || c == '.' || 128 ≤ c.val)

/-- **The words that open a clause**, and the one that ties a joined table to the rest. -/
def clauseKeywords : List String :=
  ["SELECT", "FROM", "JOIN", "ON", "WHERE", "GROUP", "HAVING", "ORDER", "LIMIT", "OFFSET"]

/-- The clause keyword that a word is, in any case. -/
def keyword? (word : List Char) : Option String :=
  clauseKeywords.find? fun k => k.toList.map Operator.lowerCase == word.map Operator.lowerCase

/-- The clause keywords among the words of a text. -/
def keywordsOf (s : List Char) : List String :=
  (s.splitOnP fun c => !isWordChar c).filterMap keyword?

/-- Whether a text begins with a break between words. -/
def breaksFirst (s : List Char) : Bool := s.head?.any fun c => !isWordChar c

/-- Whether a text ends with a break between words. -/
def breaksLast (s : List Char) : Bool := s.getLast?.any fun c => !isWordChar c

end Scan

open Scan

/-- **The clause keywords of a text outside quotes and parentheses**, in order. -/
def keywords (s : String) : List String := keywordsOf (outside .outer s.toList)

/-- **A text whose quotes and parentheses close in it.** -/
def Closed (s : String) : Prop := closes .outer s.toList = true

instance (s : String) : Decidable (Closed s) := inferInstanceAs (Decidable (_ = _))

/-- **A closed text that shows no clause keyword.** -/
structure Inert (s : String) : Prop where
  closed : Closed s
  keywords : keywords s = []

instance (s : String) : Decidable (Inert s) :=
  decidable_of_iff (Closed s ∧ FluentSql.keywords s = []) ⟨fun h => ⟨h.1, h.2⟩, fun h => ⟨h.1, h.2⟩⟩

/-- **An inert text between two breaks**: no word reaches into it, and none out of it. -/
structure Sealed (s : String) : Prop extends Inert s where
  first : breaksFirst s.toList = true
  last : breaksLast s.toList = true

instance (s : String) : Decidable (Sealed s) :=
  decidable_of_iff (Inert s ∧ breaksFirst s.toList = true ∧ breaksLast s.toList = true)
    ⟨fun h => ⟨h.1, h.2.1, h.2.2⟩, fun h => ⟨h.toInert, h.first, h.last⟩⟩

example : keywords "SELECT `from` FROM (SELECT 1 FROM t) AS `x` where `a` = ?" =
    ["SELECT", "FROM", "WHERE"] := by decide +kernel

/-! ## One character -/

namespace Scan

namespace Place

variable {p : Place} {c : Char}

/-- **Deeper down a scan goes the same way.** -/
theorem next_within (h : p.overruns c = false) (k : Nat) :
    (p.within k).next c = (p.next c).within k := by
  obtain ⟨quote, depth⟩ := p
  cases quote with
  | some q =>
    simp only [next, within]
    split <;> rfl
  | none =>
    simp only [next, within]
    split
    · rfl
    · split
      · rfl
      · split
        · next hc =>
          have hdepth : depth ≠ 0 := by
            rintro rfl
            simp [overruns, hc] at h
          exact congrArg (Place.mk none) (Nat.add_sub_assoc (Nat.pos_of_ne_zero hdepth) k)
        · rfl

theorem overruns_within (h : p.overruns c = false) (k : Nat) :
    (p.within k).overruns c = false := by
  cases hk : (p.within k).overruns c with
  | false => rfl
  | true =>
    simp only [overruns, within, Bool.and_eq_true, beq_iff_eq, Nat.add_eq_zero_iff] at hk
    rw [overruns, hk.1.1, hk.1.2.2, hk.2] at h
    cases h

/-- Nothing is seen from outside of what is in parentheses. -/
theorem look_within_succ (p : Place) (k : Nat) (c : Char) : (p.within (k + 1)).look c = ' ' := by
  refine if_neg fun h => ?_
  have hdepth : k + 1 + p.depth = 0 := congrArg Place.depth h.1
  omega

/-- A break between words is seen as one. -/
theorem isWordChar_look (p : Place) (h : isWordChar c = false) : isWordChar (p.look c) = false := by
  rw [look]
  split
  · exact h
  · rfl

/-- A character that is no mark leaves the scan where it is. -/
theorem next_outer (h : isMark c = false) : outer.next c = outer := by
  simp only [isMark, Bool.or_eq_false_iff, beq_eq_false_iff_ne] at h
  simp [next, outer, h]

theorem overruns_outer (h : isMark c = false) : outer.overruns c = false := by
  simp only [isMark, Bool.or_eq_false_iff, beq_eq_false_iff_ne] at h
  simp [overruns, h]

end Place

/-! ## Texts one behind the other -/

section Runs

variable {p : Place} {s u : List Char}

theorem closes_cons {c : Char} (h : closes p (c :: s) = true) :
    p.overruns c = false ∧ closes (p.next c) s = true := by
  simpa [closes] using h

/-- **Behind a text that closes, a scan is back outside**, or as deep as it began. -/
theorem closes_append (h : closes p s = true) (k : Nat) (u : List Char) :
    closes (p.within k) (s ++ u) = closes ⟨none, k⟩ u := by
  induction s generalizing p with
  | nil =>
    obtain rfl : p = .outer := beq_iff_eq.mp h
    rfl
  | cons c s ih =>
    obtain ⟨hc, hs⟩ := closes_cons h
    rw [List.cons_append, closes, Place.overruns_within hc, Place.next_within hc, ih hs]
    rfl

theorem outside_append (h : closes p s = true) (k : Nat) (u : List Char) :
    outside (p.within k) (s ++ u) = outside (p.within k) s ++ outside ⟨none, k⟩ u := by
  induction s generalizing p with
  | nil =>
    obtain rfl : p = .outer := beq_iff_eq.mp h
    rfl
  | cons c s ih =>
    obtain ⟨hc, hs⟩ := closes_cons h
    rw [List.cons_append, outside, outside, Place.next_within hc, ih hs, List.cons_append]

/-- **In parentheses a text that closes shows nothing.** -/
theorem outside_within (h : closes p s = true) (k : Nat) :
    ∀ c ∈ outside (p.within (k + 1)) s, c = ' ' := by
  induction s generalizing p with
  | nil => exact fun _ hc => absurd hc List.not_mem_nil
  | cons c s ih =>
    obtain ⟨hc, hs⟩ := closes_cons h
    rw [outside, Place.next_within hc]
    exact List.forall_mem_cons.mpr ⟨p.look_within_succ k c, ih hs⟩

/-- The last character of a text is seen as it is, or not at all. -/
theorem outside_concat (p : Place) (s : List Char) (c : Char) :
    ∃ q : Place, outside p (s ++ [c]) = outside p s ++ [q.look c] := by
  induction s generalizing p with
  | nil => exact ⟨p, rfl⟩
  | cons d s ih =>
    obtain ⟨q, hq⟩ := ih (p.next d)
    exact ⟨q, congrArg (p.look d :: ·) hq⟩

/-- A text without quotes and parentheses closes, and is seen as it is. -/
theorem closes_of_isMark (h : ∀ c ∈ s, isMark c = false) :
    closes .outer s = true ∧ outside .outer s = s := by
  induction s with
  | nil => exact ⟨rfl, rfl⟩
  | cons c s ih =>
    obtain ⟨hc, hs⟩ := List.forall_mem_cons.mp h
    have hlook : Place.outer.look c = c := if_pos ⟨rfl, hc⟩
    rw [closes, outside, Place.overruns_outer hc, Place.next_outer hc, hlook, (ih hs).1, (ih hs).2]
    exact ⟨rfl, rfl⟩

/-- A text without the four marks has no mark. -/
theorem isMark_of_not_mem (hback : '`' ∉ s) (hdouble : '"' ∉ s) (hopen : '(' ∉ s) (hclose : ')' ∉ s) :
    ∀ c ∈ s, isMark c = false := by
  intro c hc
  cases h : isMark c with
  | false => rfl
  | true =>
    simp only [isMark, isQuote, Bool.or_eq_true, beq_iff_eq] at h
    rcases h with ((rfl | rfl) | rfl) | rfl <;> contradiction

end Runs

/-! ## Words one behind the other -/

theorem keywordsOf_append_cons {c : Char} (h : isWordChar c = false) (s u : List Char) :
    keywordsOf (s ++ c :: u) = keywordsOf s ++ keywordsOf u := by
  have hc : (fun c => !isWordChar c) c = true := by simp [h]
  rw [keywordsOf, List.splitOnP_append_cons s u hc, List.filterMap_append, keywordsOf, keywordsOf]

theorem keywordsOf_cons {c : Char} (h : isWordChar c = false) (s : List Char) :
    keywordsOf (c :: s) = keywordsOf s := keywordsOf_append_cons h [] s

/-- No keyword begins with a point. -/
theorem keywordsOf_point {s : List Char} (h : keywordsOf s = []) : keywordsOf ('.' :: s) = [] := by
  have hword : ∀ w, keyword? ('.' :: w) = none := fun _ => rfl
  rw [keywordsOf] at h ⊢
  rw [List.splitOnP_cons_eq_if_modifyHead, if_neg (by decide)]
  cases hwords : s.splitOnP fun c => !isWordChar c with
  | nil => rfl
  | cons w ws =>
    rw [hwords, List.filterMap_eq_nil_iff] at h
    rw [List.modifyHead_cons, List.filterMap_eq_nil_iff]
    exact List.forall_mem_cons.mpr ⟨hword w, fun w' hw' => h w' (List.mem_cons_of_mem w hw')⟩

/-- Blanks show no keyword. -/
theorem keywordsOf_blanks {s : List Char} (h : ∀ c ∈ s, c = ' ') : keywordsOf s = [] := by
  induction s with
  | nil => rfl
  | cons c s ih =>
    obtain ⟨rfl, hs⟩ := List.forall_mem_cons.mp h
    rw [keywordsOf_cons (by decide), ih hs]

theorem breaksFirst_iff {s : List Char} :
    breaksFirst s = true ↔ ∃ c u, s = c :: u ∧ isWordChar c = false := by
  cases s <;> simp [breaksFirst]

theorem breaksLast_iff {s : List Char} :
    breaksLast s = true ↔ ∃ u c, s = u ++ [c] ∧ isWordChar c = false := by
  rcases List.eq_nil_or_concat' s with rfl | ⟨u, c, rfl⟩ <;> simp [breaksLast]

theorem breaksFirst_append {s : List Char} (h : breaksFirst s = true) (u : List Char) :
    breaksFirst (s ++ u) = true := by
  obtain ⟨c, v, rfl, hc⟩ := breaksFirst_iff.mp h
  exact breaksFirst_iff.mpr ⟨c, v ++ u, rfl, hc⟩

theorem breaksLast_append (s : List Char) {u : List Char} (h : breaksLast u = true) :
    breaksLast (s ++ u) = true := by
  obtain ⟨v, c, rfl, hc⟩ := breaksLast_iff.mp h
  exact breaksLast_iff.mpr ⟨s ++ v, c, (List.append_assoc s v [c]).symm, hc⟩

end Scan

/-! ## Keywords one behind the other -/

section Append

variable {s u l : String}

theorem Closed.append (hs : Closed s) (hu : Closed u) : Closed (s ++ u) := by
  rw [Closed, String.toList_append]
  exact (closes_append hs 0 u.toList).trans hu

/-- **Keywords add up at a break behind the first text.** -/
theorem keywords_append_of_last (hs : Closed s) (h : breaksLast s.toList = true) :
    keywords (s ++ u) = keywords s ++ keywords u := by
  obtain ⟨front, c, hfront, hc⟩ := breaksLast_iff.mp h
  obtain ⟨q, hq⟩ := outside_concat .outer front c
  have hbreak := q.isWordChar_look hc
  have hsplit := outside_append hs 0 u.toList
  rw [keywords, keywords, keywords, String.toList_append]
  refine (congrArg keywordsOf hsplit).trans ?_
  rw [hfront]
  calc keywordsOf (outside .outer (front ++ [c]) ++ outside .outer u.toList)
    _ = keywordsOf (outside .outer front) ++ keywordsOf (outside .outer u.toList) := by
      rw [hq, List.append_assoc]
      exact keywordsOf_append_cons hbreak _ _
    _ = keywordsOf (outside .outer (front ++ [c])) ++ keywordsOf (outside .outer u.toList) := by
      rw [hq, keywordsOf_append_cons hbreak]
      exact congrArg (· ++ _) (List.append_nil _).symm

/-- **Keywords add up at a break before the second text.** -/
theorem keywords_append_of_first (hs : Closed s) (h : breaksFirst u.toList = true) :
    keywords (s ++ u) = keywords s ++ keywords u := by
  obtain ⟨c, rest, hu, hc⟩ := breaksFirst_iff.mp h
  have hbreak := Place.outer.isWordChar_look hc
  rw [keywords, keywords, keywords, String.toList_append]
  refine (congrArg keywordsOf (outside_append hs 0 u.toList)).trans ?_
  rw [hu]
  exact (keywordsOf_append_cons hbreak _ _).trans
    (congrArg (_ ++ ·) (keywordsOf_cons hbreak _).symm)

/-- **Keywords add up around a text with a break at both ends.** -/
theorem keywords_around (hs : Closed s) (hl : Closed l) (hfirst : breaksFirst l.toList = true)
    (hlast : breaksLast l.toList = true) :
    keywords (s ++ l ++ u) = keywords s ++ keywords l ++ keywords u := by
  have hbreak : breaksLast (s ++ l).toList = true := by
    rw [String.toList_append]
    exact breaksLast_append _ hlast
  rw [keywords_append_of_last (hs.append hl) hbreak, keywords_append_of_first hs hfirst]

/-- Keywords of texts with a sealed text between them. -/
theorem keywords_between (hs : Closed s) (hl : Sealed l) :
    keywords (s ++ l ++ u) = keywords s ++ keywords u := by
  rw [keywords_around hs hl.closed hl.first hl.last, hl.keywords, List.append_nil]

end Append

/-! ## Closed texts -/

namespace Closed

variable {s u : String}

theorem parenthesized (h : Closed s) : Closed ("(" ++ s ++ ")") := by
  rw [Closed, String.toList_append, String.toList_append]
  exact closes_append h 1 ")".toList

theorem joinWith {sep : String} (hsep : Closed sep) {ss : List String} (h : ∀ s ∈ ss, Closed s) :
    Closed (Text.joinWith sep ss) := by
  induction ss using Text.joinWith.induct with
  | case1 => exact (by decide : Closed "")
  | case2 s => exact h s List.mem_cons_self
  | case3 s t rest ih =>
    obtain ⟨hs, hrest⟩ := List.forall_mem_cons.mp h
    exact (hs.append hsep).append (ih hrest)

end Closed

/-- **Keywords of texts with sealed texts between them.** -/
theorem keywords_joinWith {sep : String} (hsep : Sealed sep) {ss : List String}
    (h : ∀ s ∈ ss, Closed s) : keywords (Text.joinWith sep ss) = ss.flatMap keywords := by
  induction ss using Text.joinWith.induct with
  | case1 => rfl
  | case2 s => exact (List.append_nil _).symm
  | case3 s t rest ih =>
    obtain ⟨hs, hrest⟩ := List.forall_mem_cons.mp h
    rw [Text.joinWith_cons_cons, keywords_between hs hsep, ih hrest]
    rfl

/-! ## What is left of a text cut off in front -/

section Front

variable {s : String} {p r : List Char}

/-- Neither a quote nor a parenthesis is cut off. -/
theorem Cut.isMark (hp : Cut p) : ∀ c ∈ p, isMark c = false :=
  isMark_of_not_mem (hp.not_mem (by decide) (by decide) (by decide))
    (hp.not_mem (by decide) (by decide) (by decide)) (hp.not_mem (by decide) (by decide) (by decide))
    (hp.not_mem (by decide) (by decide) (by decide))

theorem Closed.cut (h : Closed s) (hs : s.toList = p ++ r) (hp : Cut p) :
    Closed (String.ofList r) := by
  rw [Closed, hs] at h
  rw [Closed, String.toList_ofList]
  exact (closes_append (closes_of_isMark hp.isMark).1 0 r).symm.trans h

theorem Inert.cut (h : Inert s) (hs : s.toList = p ++ r) (hp : Cut p) :
    Inert (String.ofList r) where
  closed := h.closed.cut hs hp
  keywords := by
    rcases hp.last with rfl | ⟨u, c, rfl, hc⟩
    · rw [List.nil_append] at hs
      rw [← hs, String.ofList_toList]
      exact h.keywords
    · have hfront : Closed (String.ofList (u ++ [c])) := by
        rw [Closed, String.toList_ofList]
        exact (closes_of_isMark hp.isMark).1
      have hbreak : breaksLast (String.ofList (u ++ [c])).toList = true := by
        rw [String.toList_ofList]
        exact breaksLast_iff.mpr ⟨u, c, rfl, by simp [isWordChar, hc]⟩
      have hsplit : s = String.ofList (u ++ [c]) ++ String.ofList r := by
        rw [← String.ofList_append, ← hs, String.ofList_toList]
      have hnone := h.keywords
      rw [hsplit, keywords_append_of_last hfront hbreak] at hnone
      exact (List.append_eq_nil_iff.mp hnone).2

theorem Closed.dropLeading (h : Closed s) : Closed (Connective.dropLeadingText s) :=
  (Connective.exists_cut s.toList).elim fun _ hp => h.cut hp.1 hp.2

theorem Inert.dropLeading (h : Inert s) : Inert (Connective.dropLeadingText s) :=
  (Connective.exists_cut s.toList).elim fun _ hp => h.cut hp.1 hp.2

theorem Inert.dropCommas (h : Inert s) : Inert (String.ofList (Query.dropCommas s.toList)) :=
  (Query.exists_cut_dropCommas s.toList).elim fun _ hp => h.cut hp.1 hp.2

end Front

/-! ## Inert texts -/

namespace Inert

variable {s u l : String}

/-- **One word that is no keyword is inert**, as a plain path of names is. -/
theorem word (h : s.toList.all isWordChar = true) (hkeyword : keyword? s.toList = none) :
    Inert s := by
  have hword : ∀ c ∈ s.toList, isWordChar c = true := List.all_eq_true.mp h
  have hmark {c : Char} (hc : isWordChar c = false) : c ∉ s.toList := fun hmem =>
    Bool.false_ne_true (hc.symm.trans (hword c hmem))
  obtain ⟨hcloses, hseen⟩ := closes_of_isMark (isMark_of_not_mem (hmark (by decide))
    (hmark (by decide)) (hmark (by decide)) (hmark (by decide)))
  refine ⟨hcloses, ?_⟩
  rw [FluentSql.keywords, hseen, keywordsOf, List.splitOnP_eq_singleton fun c hc => by simp [hword c hc]]
  exact List.filterMap_eq_nil_iff.mpr (List.forall_mem_singleton.mpr hkeyword)

/-- **Inert texts on both sides of a sealed one.** -/
theorem between (hs : Inert s) (hl : Sealed l) (hu : Inert u) : Inert (s ++ l ++ u) where
  closed := (hs.closed.append hl.closed).append hu.closed
  keywords := by rw [keywords_between hs.closed hl, hs.keywords, hu.keywords, List.append_nil]

theorem before (hs : Inert s) (hl : Sealed l) : Inert (s ++ l) where
  closed := hs.closed.append hl.closed
  keywords := by
    rw [keywords_append_of_first hs.closed hl.first, hs.keywords, hl.keywords, List.append_nil]

theorem behind (hs : Inert s) (hl : Sealed l) : Inert (l ++ s) where
  closed := hl.closed.append hs.closed
  keywords := by
    rw [keywords_append_of_last hl.closed hl.last, hs.keywords, hl.keywords, List.append_nil]

/-- Inert texts with a space between them. -/
theorem spaced (hs : Inert s) (hu : Inert u) : Inert (s ++ " " ++ u) := hs.between (by decide) hu

theorem joinWith {sep : String} (hsep : Sealed sep) {ss : List String} (h : ∀ s ∈ ss, Inert s) :
    Inert (Text.joinWith sep ss) where
  closed := .joinWith hsep.closed fun s hs => (h s hs).closed
  keywords := by
    rw [keywords_joinWith hsep fun s hs => (h s hs).closed, List.flatMap_eq_nil_iff]
    exact fun s hs => (h s hs).keywords

/-- An inert text behind the point of a path. -/
theorem point (hs : Inert s) : Inert ("." ++ s) where
  closed := Closed.append (by decide) hs.closed
  keywords := by
    have hscan : outside .outer ("." ++ s).toList = '.' :: outside .outer s.toList := by
      rw [String.toList_append]
      rfl
    rw [FluentSql.keywords, hscan]
    exact keywordsOf_point hs.keywords

end Inert

/-! ## Sealed texts -/

namespace Sealed

variable {s u : String}

theorem append (hs : Sealed s) (hu : Sealed u) : Sealed (s ++ u) where
  toInert := hs.toInert.before hu
  first := by
    rw [String.toList_append]
    exact breaksFirst_append hs.first _
  last := by
    rw [String.toList_append]
    exact breaksLast_append _ hu.last

/-- **A closed text is sealed by parentheses.** -/
theorem parenthesized (h : Closed s) : Sealed ("(" ++ s ++ ")") where
  closed := h.parenthesized
  keywords := by
    have hinner : outside ⟨none, 1⟩ (s.toList ++ [')']) = outside ⟨none, 1⟩ s.toList ++ [' '] :=
      outside_append h 1 [')']
    have hscan : outside .outer ("(" ++ s ++ ")").toList =
        ' ' :: (outside ⟨none, 1⟩ s.toList ++ [' ']) := by
      rw [String.toList_append, String.toList_append, ← hinner]
      rfl
    rw [keywords, hscan]
    refine keywordsOf_blanks (List.forall_mem_cons.mpr ⟨rfl, fun c hc => ?_⟩)
    exact (List.mem_append.mp hc).elim (outside_within h 0 c) List.mem_singleton.mp
  first := by
    rw [String.toList_append, String.toList_append]
    rfl
  last := by
    rw [String.toList_append]
    exact breaksLast_append _ rfl

end Sealed

/-- A closed text in parentheses behind an inert one. -/
theorem Inert.enclosing {s u : String} (hu : Inert u) (h : Closed s) :
    Inert (u ++ " (" ++ s ++ ")") := by
  have hsplit : u ++ " (" ++ s ++ ")" = u ++ " " ++ ("(" ++ s ++ ")") := by
    rw [String.append_assoc, String.append_assoc, String.append_assoc, String.append_assoc]
    rfl
  rw [hsplit]
  exact hu.spaced (Sealed.parenthesized h).toInert

end FluentSql
