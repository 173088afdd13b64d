import FluentSql.Dialect.Quote
import Mathlib.Data.List.Basic

/-!
# Proofs/Identifier/Token — one quoted identifier, as it is read

    `a``b` rest  ──scanIdentifier?──▸  a`b  and  ` rest`

A reader goes from the opening quote of an identifier to the first quote that stands alone; two side
by side are one quote of the name.  A text is such an identifier from end to end (`IsToken`) when
between its outer quotes all others come in pairs, which is to say when it is a name with its quotes
doubled (`isToken_iff`) or when a reader takes all of it (`isToken_iff_scan`).

Quoting writes such an identifier and a reader gets the name back, but for the names that pass
through: a name that begins and ends with the quote is taken for quoted already, and need not be
(`quoteIdentifier_isToken_iff`).
-/

namespace FluentSql.Dialect

/-! ## Quotes in pairs -/

/-- Whether the quotes of a text stand in adjacent pairs. -/
def paired (quote : Char) : List Char → Bool
  | [] => true
  | [c] => c != quote
  | c :: d :: rest => if c = quote then d == quote && paired quote rest else paired quote (d :: rest)

/-- **One quoted identifier** — it begins and ends with the quote, and between the two the quote
occurs only in adjacent pairs. -/
def IsToken (quote : Char) (text : List Char) : Prop :=
  ∃ body, text = quote :: (body ++ [quote]) ∧ paired quote body = true

section

variable {q : Char}

theorem paired_cons {c : Char} (h : c ≠ q) (s : List Char) : paired q (c :: s) = paired q s := by
  cases s with
  | nil => simp [paired, h]
  | cons d s => rw [paired, if_neg h]

theorem paired_doubled (s : List Char) : paired q (doubled q s) = true := by
  induction s with
  | nil => rfl
  | cons c s ih =>
    rw [doubled]
    split
    · next hc => simp [paired, hc, ih]
    · next hc => rw [paired_cons hc, ih]

/-- **Where quotes come in pairs, they are the quotes of a name, doubled.** -/
theorem exists_doubled {body : List Char} (h : paired q body = true) :
    ∃ name, body = doubled q name := by
  induction body using paired.induct q with
  | case1 => exact ⟨[], rfl⟩
  | case2 c => exact ⟨[c], by rw [doubled, if_neg (by simpa [paired] using h)]; rfl⟩
  | case3 d rest ih =>
    rw [paired, if_pos rfl, Bool.and_eq_true, beq_iff_eq] at h
    obtain ⟨name, hname⟩ := ih h.2
    exact ⟨q :: name, by rw [doubled, if_pos rfl, h.1, hname]⟩
  | case4 c d rest hc ih =>
    rw [paired, if_neg hc] at h
    obtain ⟨name, hname⟩ := ih h
    exact ⟨c :: name, by rw [doubled, if_neg hc, hname]⟩

/-- **A token is a name with its quotes doubled.** -/
theorem isToken_iff {text : List Char} :
    IsToken q text ↔ ∃ name, text = q :: (doubled q name ++ [q]) := by
  refine ⟨fun ⟨body, htext, hbody⟩ => ?_, fun ⟨name, htext⟩ => ⟨_, htext, paired_doubled name⟩⟩
  obtain ⟨name, rfl⟩ := exists_doubled hbody
  exact ⟨name, htext⟩

end

/-! ## Reading an identifier -/

/-- **Reads on behind an opening quote**: the name up to the quote that closes it, and the text behind
that quote. -/
def scanName? (quote : Char) : List Char → Option (List Char × List Char)
  | [] => none
  | [c] => if c = quote then some ([], []) else none
  | c :: d :: rest =>
    if c = quote then
      if d = quote then (scanName? quote rest).map fun r => (quote :: r.1, r.2)
      else some ([], d :: rest)
    else (scanName? quote (d :: rest)).map fun r => (c :: r.1, r.2)

/-- **Reads a quoted identifier**: its name, and the text behind it. -/
def scanIdentifier? (quote : Char) : List Char → Option (List Char × List Char)
  | c :: rest => if c = quote then scanName? quote rest else none
  | [] => none

section

variable {q : Char}

theorem scanName?_quote {rest : List Char} (h : rest.head? ≠ some q) :
    scanName? q (q :: rest) = some ([], rest) := by
  cases rest with
  | nil => rw [scanName?, if_pos rfl]
  | cons d rest => rw [scanName?, if_pos rfl, if_neg (by simpa using h)]

theorem scanName?_cons {c : Char} (hc : c ≠ q) (s : List Char) :
    scanName? q (c :: s) = (scanName? q s).map fun r => (c :: r.1, r.2) := by
  cases s with
  | nil => simp [scanName?, hc]
  | cons d s => rw [scanName?, if_neg hc]

/-- **A doubled name is read back**, up to the quote that stands alone. -/
theorem scanName?_doubled {rest : List Char} (h : rest.head? ≠ some q) (name : List Char) :
    scanName? q (doubled q name ++ q :: rest) = some (name, rest) := by
  induction name with
  | nil => exact scanName?_quote h
  | cons c name ih =>
    rw [doubled]
    split
    · next hc =>
      subst hc
      rw [List.cons_append, List.cons_append, scanName?, if_pos rfl, if_pos rfl, ih]
      rfl
    · next hc =>
      rw [List.cons_append, scanName?_cons hc, ih]
      rfl

/-- **What is read is what stands there**, its quotes doubled, and a reader never stops at the first
quote of a pair. -/
theorem eq_of_scanName? {text name rest : List Char} (h : scanName? q text = some (name, rest)) :
    text = doubled q name ++ q :: rest ∧ rest.head? ≠ some q := by
  induction text using scanName?.induct q generalizing name with
  | case1 => cases h
  | case2 =>
    rw [scanName?, if_pos rfl] at h
    cases h
    exact ⟨rfl, nofun⟩
  | case3 c hc =>
    rw [scanName?, if_neg hc] at h
    cases h
  | case4 tail ih =>
    rw [scanName?, if_pos rfl, if_pos rfl] at h
    obtain ⟨⟨s, left⟩, hs, hr⟩ := Option.map_eq_some_iff.mp h
    obtain ⟨rfl, rfl⟩ := Prod.mk.inj hr
    obtain ⟨htail, hrest⟩ := ih hs
    exact ⟨by rw [doubled, if_pos rfl, htail]; rfl, hrest⟩
  | case5 d tail hd =>
    rw [scanName?, if_pos rfl, if_neg hd] at h
    cases h
    exact ⟨rfl, by simpa using hd⟩
  | case6 c d tail hc ih =>
    rw [scanName?, if_neg hc] at h
    obtain ⟨⟨s, left⟩, hs, hr⟩ := Option.map_eq_some_iff.mp h
    obtain ⟨rfl, rfl⟩ := Prod.mk.inj hr
    obtain ⟨htail, hrest⟩ := ih hs
    exact ⟨by rw [doubled, if_neg hc, htail]; rfl, hrest⟩

/-- **An identifier that is read is a token**, and what is left of the text stands behind it. -/
theorem eq_of_scanIdentifier? {text name rest : List Char}
    (h : scanIdentifier? q text = some (name, rest)) :
    text = q :: (doubled q name ++ [q]) ++ rest ∧ rest.head? ≠ some q := by
  unfold scanIdentifier? at h
  split at h
  · split at h
    · next hc =>
      obtain ⟨htext, hrest⟩ := eq_of_scanName? h
      exact ⟨by rw [hc, htext]; simp, hrest⟩
    · cases h
  · cases h

/-- **A token is read whole**, whatever stands behind it, as long as that is no quote. -/
theorem scanIdentifier?_append {rest : List Char} (h : rest.head? ≠ some q) (name : List Char) :
    scanIdentifier? q (q :: (doubled q name ++ [q]) ++ rest) = some (name, rest) := by
  rw [List.cons_append, List.append_assoc, scanIdentifier?, if_pos rfl]
  exact scanName?_doubled h name

/-- **A token is what a reader takes all of.** -/
theorem isToken_iff_scan {text : List Char} :
    IsToken q text ↔ ∃ name, scanIdentifier? q text = some (name, []) := by
  rw [isToken_iff]
  refine exists_congr fun name => ⟨?_, fun h => ?_⟩
  · rintro rfl
    have hscan : scanIdentifier? q (q :: (doubled q name ++ [q]) ++ []) = some (name, []) :=
      scanIdentifier?_append (by simp) name
    rwa [List.append_nil] at hscan
  · rw [(eq_of_scanIdentifier? h).1, List.append_nil]

/-- What is left behind an identifier is shorter. -/
theorem length_scanIdentifier? {text name rest : List Char}
    (h : scanIdentifier? q text = some (name, rest)) : rest.length < text.length := by
  rw [(eq_of_scanIdentifier? h).1]
  simp only [List.length_cons, List.length_append]
  omega

instance (text : List Char) : Decidable (IsToken q text) :=
  decidable_of_iff ((scanIdentifier? q text).any fun r => r.2.isEmpty) (by
    rw [isToken_iff_scan]
    cases scanIdentifier? q text with
    | none => simp
    | some r => simp [Prod.ext_iff])

end

/-! ## Quoting -/

/-- A name that does not look quoted is written as a token. -/
theorem identifier_eq {quote : Char} {name : List Char} (hstar : Text.stripBlanks name ≠ ['*'])
    (hbare : isQuoted quote (Text.stripBlanks name) = false) :
    identifier quote name = quote :: (doubled quote (Text.stripBlanks name) ++ [quote]) :=
  if_neg fun h => h.elim hstar fun h => Bool.false_ne_true (hbare.symm.trans h)

/-- What looks quoted passes through. -/
theorem identifier_of_isQuoted {quote : Char} {name : List Char}
    (h : isQuoted quote (Text.stripBlanks name) = true) :
    identifier quote name = Text.stripBlanks name := if_pos (.inr h)

/-- **Quoting writes `*` or one token, unless the name looks quoted without being a token**; and what
it makes of a name that does not look quoted is read back as the name, whatever stands behind it. -/
theorem quoteIdentifier_isToken_iff (d : Dialect) (name : String) :
    let text := (d.quoteIdentifier name).toList
    let bare := Text.stripBlanks name.toList
    (text = ['*'] ∨ IsToken d.quote text ↔ (isQuoted d.quote bare = true → IsToken d.quote bare)) ∧
      (bare ≠ ['*'] → isQuoted d.quote bare = false →
        ∀ rest, rest.head? ≠ some d.quote →
          scanIdentifier? d.quote (text ++ rest) = some (bare, rest)) := by
  intro text bare
  have htext : text = identifier d.quote name.toList := String.toList_ofList
  rw [htext]
  refine ⟨?_, fun hstar hbare rest hrest => ?_⟩
  · by_cases hquoted : isQuoted d.quote bare = true
    · have hstar : bare ≠ ['*'] := fun h => by
        rw [h] at hquoted
        cases hquoted
      rw [identifier_of_isQuoted hquoted]
      exact ⟨fun h _ => h.resolve_left hstar, fun h => .inr (h hquoted)⟩
    · refine iff_of_true ?_ fun h => absurd h hquoted
      by_cases hstar : bare = ['*']
      · exact .inl ((if_pos (.inl hstar)).trans hstar)
      · exact .inr (isToken_iff.mpr ⟨bare, identifier_eq hstar (by simpa using hquoted)⟩)
  · rw [identifier_eq hstar hbare]
    exact scanIdentifier?_append hrest bare

/-- **Two identifiers with text between them look quoted**: the text passes through, and a reader is
out of the identifier at the second quote. -/
theorem quoteIdentifier_ends_early :
    let text := (Dialect.mysql.quoteIdentifier "`a` OR `b`").toList
    text ≠ ['*'] ∧ ¬ IsToken Dialect.mysql.quote text ∧
      scanIdentifier? Dialect.mysql.quote text = some ("a".toList, " OR `b`".toList) := by
  decide

end FluentSql.Dialect
