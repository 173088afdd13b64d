import FluentSql.Proofs.Identifier.Token
import FluentSql.Proofs.Quote
import FluentSql.Text.Join
import Mathlib.Data.List.Infix

/-!
# Proofs/Identifier/Path — a quoted column is read back as its path and its label

    us.a`b as n  ──quoteColumn──▸  `us`.`a``b` AS `n`  ──scanColumn?──▸  [us, a`b]  and  n

A reader takes identifiers with points between them, and perhaps a label behind ` AS `
(`scanColumn?`).  On the other side a column is put together from its segments and its label
(`ColumnPath.text`), and quoting has to find the parts again: the label behind the last ` as `
(`splitLastAs?_label`), the segments between the points (`segments_joinPath`).  When no part can be
mistaken for something else (`ColumnPath.Plain`), the reader gets back what went in
(`scanColumn?_quoteColumn`), so that no two columns are written alike.
-/

namespace FluentSql

namespace Dialect

/-! ## The word in front of a label -/

/-- The word `as`, in any case. -/
def IsAs (word : List Char) : Prop := word.map Char.toLower = "as".toList

instance (word : List Char) : Decidable (IsAs word) := inferInstanceAs (Decidable (_ = _))

/-- **A text with the word `as` between two spaces**, in any case. -/
def ShowsAs (s : List Char) : Prop := ∃ word, IsAs word ∧ ' ' :: (word ++ [' ']) <:+: s

theorem ShowsAs.cons {s : List Char} (h : ShowsAs s) (c : Char) : ShowsAs (c :: s) :=
  h.imp fun _ ⟨hword, hin⟩ => ⟨hword, hin.trans (List.suffix_cons c s).isInfix⟩

theorem isAs_iff {word : List Char} :
    IsAs word ↔ ∃ a s, word = [a, s] ∧ a.toLower = 'a' ∧ s.toLower = 's' := by
  constructor
  · intro h
    obtain ⟨a, rest, rfl, ha, hrest⟩ := List.map_eq_cons_iff.mp h
    obtain ⟨s, rest, rfl, hs, hrest⟩ := List.map_eq_cons_iff.mp hrest
    obtain rfl := List.map_eq_nil_iff.mp hrest
    exact ⟨a, s, rfl, ha, hs⟩
  · rintro ⟨a, s, rfl, ha, hs⟩
    rw [IsAs, List.map_cons, List.map_cons, ha, hs]
    rfl

/-- **A text begins with ` as `** just when the split sees it there. -/
theorem afterAs?_eq_some_iff {s rest : List Char} :
    afterAs? s = some rest ↔ ∃ word, IsAs word ∧ s = ' ' :: (word ++ ' ' :: rest) := by
  constructor
  · intro h
    unfold afterAs? at h
    split at h
    · next a t tail =>
      split at h
      · next has =>
        obtain rfl : tail = rest := Option.some.inj h
        exact ⟨[a, t], isAs_iff.mpr ⟨a, t, rfl, has⟩, rfl⟩
      · cases h
    · cases h
  · rintro ⟨word, hword, rfl⟩
    obtain ⟨a, t, rfl, has⟩ := isAs_iff.mp hword
    exact if_pos has

/-- A ` as ` is shown at the beginning of a text or in what is left of it. -/
theorem showsAs_cons_iff {c : Char} {s : List Char} :
    ShowsAs (c :: s) ↔ (afterAs? (c :: s)).isSome ∨ ShowsAs s := by
  constructor
  · rintro ⟨word, hword, hin⟩
    rcases List.infix_cons_iff.mp hin with ⟨rest, hrest⟩ | hin
    · refine .inl (Option.isSome_iff_exists.mpr ⟨rest, ?_⟩)
      exact afterAs?_eq_some_iff.mpr ⟨word, hword, by simpa using hrest.symm⟩
    · exact .inr ⟨word, hword, hin⟩
  · rintro (hhere | hs)
    · obtain ⟨rest, hrest⟩ := Option.isSome_iff_exists.mp hhere
      obtain ⟨word, hword, hs⟩ := afterAs?_eq_some_iff.mp hrest
      exact ⟨word, hword, [], rest, by rw [hs]; simp⟩
    · exact hs.cons c

/-- **There is nothing to split at** just where no ` as ` is shown. -/
theorem splitLastAs?_eq_none_iff {s : List Char} : splitLastAs? s = none ↔ ¬ ShowsAs s := by
  induction s with
  | nil =>
    have hnil : ¬ ShowsAs [] := fun ⟨word, _, hin⟩ => by simpa using hin.length_le
    exact iff_of_true rfl hnil
  | cons c s ih =>
    rw [showsAs_cons_iff, not_or, ← ih, splitLastAs?]
    cases splitLastAs? s <;> simp

instance (s : List Char) : Decidable (ShowsAs s) :=
  decidable_of_iff ((splitLastAs? s).isSome = true) (by
    rw [← not_iff_not, ← splitLastAs?_eq_none_iff, Option.not_isSome_iff_eq_none])

/-- **The label is what stands behind the last ` as `**, when none is shown in it or at its edge. -/
theorem splitLastAs?_label {word label : List Char} (hword : IsAs word)
    (h : ¬ ShowsAs (' ' :: label)) (path : List Char) :
    splitLastAs? (path ++ ' ' :: (word ++ ' ' :: label)) = some (path, label) := by
  induction path with
  | nil =>
    obtain ⟨a, s, rfl, ha, hs⟩ := isAs_iff.mp hword
    have hne : ∀ {c u : Char}, c.toLower = u → u ≠ ' ' → c ≠ ' ' := by
      rintro c u hc hu rfl
      exact hu hc.symm
    have hskip : ∀ {c : Char} {u : List Char}, c ≠ ' ' → splitLastAs? u = none →
        splitLastAs? (c :: u) = none := by
      intro c u hc hu
      have hhere : afterAs? (c :: u) = none := by
        refine Option.eq_none_iff_forall_ne_some.mpr fun rest hrest => ?_
        obtain ⟨word, -, heq⟩ := afterAs?_eq_some_iff.mp hrest
        exact hc (List.cons.inj heq).1
      rw [splitLastAs?, hu, hhere]
      rfl
    have hlater : splitLastAs? (a :: s :: ' ' :: label) = none :=
      hskip (hne ha (by decide)) (hskip (hne hs (by decide)) (splitLastAs?_eq_none_iff.mpr h))
    have hhere : afterAs? (' ' :: a :: s :: ' ' :: label) = some label := if_pos ⟨ha, hs⟩
    rw [List.nil_append, List.cons_append, List.cons_append, List.nil_append, splitLastAs?, hlater,
      hhere]
    rfl
  | cons c path ih => rw [List.cons_append, splitLastAs?, ih]

/-! ## The segments of a path -/

theorem segments_of_notMem {s : List Char} (h : '.' ∉ s) : segments s = [s] := by
  induction s with
  | nil => rfl
  | cons c s ih =>
    rw [List.mem_cons, not_or] at h
    rw [segments, if_neg (Ne.symm h.1), ih h.2]

theorem segments_append {s : List Char} (h : '.' ∉ s) (rest : List Char) :
    segments (s ++ '.' :: rest) = s :: segments rest := by
  induction s with
  | nil => rfl
  | cons c s ih =>
    rw [List.mem_cons, not_or] at h
    rw [List.cons_append, segments, if_neg (Ne.symm h.1), ih h.2]

/-- **The points of a path are those between its segments.** -/
theorem segments_joinPath {ss : List (List Char)} (hne : ss ≠ []) (h : ∀ s ∈ ss, '.' ∉ s) :
    segments (joinPath ss) = ss := by
  induction ss using joinPath.induct with
  | case1 => exact absurd rfl hne
  | case2 s => exact segments_of_notMem (h s List.mem_cons_self)
  | case3 s t rest ih =>
    obtain ⟨hs, hrest⟩ := List.forall_mem_cons.mp h
    rw [joinPath, segments_append hs, ih (List.cons_ne_nil t rest) hrest]

theorem tight_joinPath {ss : List (List Char)} (h : ∀ s ∈ ss, Text.Tight s) :
    Text.Tight (joinPath ss) := by
  induction ss using joinPath.induct with
  | case1 => constructor <;> simp [joinPath]
  | case2 s => exact h s List.mem_cons_self
  | case3 s t rest ih =>
    obtain ⟨hs, hrest⟩ := List.forall_mem_cons.mp h
    exact hs.append_cons (ih hrest) (by decide)

/-! ## Columns by their parts -/

/-- **A column by its parts**: the segments of its path, and perhaps a label. -/
structure ColumnPath where
  segments : List String
  label : Option String
  deriving DecidableEq, Repr

namespace ColumnPath

/-- The path of a column. -/
def path (p : ColumnPath) : String := Text.joinWith "." p.segments

/-- **A column as a caller gives it**, the label behind the word `as` in some case. -/
def text (p : ColumnPath) (word : String) : String :=
  match p.label with
  | some label => p.path ++ " " ++ word ++ " " ++ label
  | none => p.path

end ColumnPath

/-- **A name that is quoted as it stands**: no blank at its ends, not `*`, and not with a quote at
both of its ends. -/
structure PlainName (quote : Char) (name : String) : Prop where
  tight : Text.Tight name.toList
  star : name ≠ "*"
  bare : 1 < name.toList.length → name.toList.head? = some quote →
    name.toList.getLast? ≠ some quote

/-- **A column whose parts are not mistaken for anything else.** -/
structure ColumnPath.Plain (quote : Char) (p : ColumnPath) : Prop where
  nonempty : p.segments ≠ []
  segment : ∀ s ∈ p.segments, PlainName quote s ∧ '.' ∉ s.toList
  path : ¬ ShowsAs p.path.toList
  label : ∀ l ∈ p.label,
    PlainName quote l ∧ l ≠ "" ∧ ¬ ShowsAs (" " ++ l).toList ∧ p.path ≠ ""

instance (quote : Char) (name : String) : Decidable (PlainName quote name) :=
  decidable_of_iff
    (Text.Tight name.toList ∧ name ≠ "*" ∧
      (1 < name.toList.length → name.toList.head? = some quote →
        name.toList.getLast? ≠ some quote))
    ⟨fun h => ⟨h.1, h.2.1, h.2.2⟩, fun h => ⟨h.tight, h.star, h.bare⟩⟩

instance (quote : Char) (p : ColumnPath) : Decidable (p.Plain quote) :=
  decidable_of_iff
    (p.segments ≠ [] ∧ (∀ s ∈ p.segments, PlainName quote s ∧ '.' ∉ s.toList) ∧
      ¬ ShowsAs p.path.toList ∧
      ∀ l ∈ p.label, PlainName quote l ∧ l ≠ "" ∧ ¬ ShowsAs (" " ++ l).toList ∧ p.path ≠ "")
    ⟨fun h => ⟨h.1, h.2.1, h.2.2.1, h.2.2.2⟩, fun h => ⟨h.nonempty, h.segment, h.path, h.label⟩⟩

/-- A plain name does not look quoted. -/
theorem PlainName.isQuoted_eq {quote : Char} {name : String} (h : PlainName quote name) :
    isQuoted quote name.toList = false := by
  have hbare := h.bare
  rw [Bool.eq_false_iff]
  intro hquoted
  obtain ⟨body, hbody⟩ := isQuoted_iff.mp hquoted
  rw [hbody] at hbare
  exact hbare (by simp) rfl (by rw [← List.cons_append, List.getLast?_concat])

/-- **A plain name is quoted as a token of itself.** -/
theorem PlainName.identifier_eq {quote : Char} {name : String} (h : PlainName quote name) :
    identifier quote name.toList = quote :: (doubled quote name.toList ++ [quote]) := by
  have hstrip := h.tight.stripBlanks_eq
  have hstar : name.toList ≠ ['*'] := fun hs => h.star (String.toList_inj.mp hs)
  rw [Dialect.identifier_eq (by rwa [hstrip]) (by rw [hstrip]; exact h.isQuoted_eq), hstrip]

/-! ## Reading a column -/

/-- **Reads identifiers with points between them**: their names, and the text behind the last. -/
@[semireducible] def scanSegments? (quote : Char) (text : List Char) :
    Option (List String × List Char) :=
  match _h : scanIdentifier? quote text with
  | some (name, '.' :: rest) =>
    (scanSegments? quote rest).map fun r => (String.ofList name :: r.1, r.2)
  | some (name, rest) => some ([String.ofList name], rest)
  | none => none
termination_by text.length
decreasing_by
  have := length_scanIdentifier? ‹_›
  simp only [List.length_cons] at this
  omega

/-- **Reads a column**, the whole text: a path, and perhaps a label behind ` AS `. -/
def scanColumn? (quote : Char) (text : List Char) : Option ColumnPath :=
  match scanSegments? quote text with
  | some (segments, []) => some ⟨segments, none⟩
  | some (segments, ' ' :: 'A' :: 'S' :: ' ' :: rest) =>
    match scanIdentifier? quote rest with
    | some (label, []) => some ⟨segments, some (String.ofList label)⟩
    | _ => none
  | _ => none

section

variable {q : Char}

/-- Behind an identifier with a point there are more. -/
theorem scanSegments?_point {text name rest : List Char}
    (h : scanIdentifier? q text = some (name, '.' :: rest)) :
    scanSegments? q text =
      (scanSegments? q rest).map fun r => (String.ofList name :: r.1, r.2) := by
  rw [scanSegments?, h]
  split
  · next heq =>
    cases heq
    rfl
  · next hother heq =>
    cases heq
    exact absurd rfl (hother rest)
  · next heq => cases heq

/-- An identifier without one is the last. -/
theorem scanSegments?_last {text name rest : List Char}
    (h : scanIdentifier? q text = some (name, rest)) (hpoint : rest.head? ≠ some '.') :
    scanSegments? q text = some ([String.ofList name], rest) := by
  rw [scanSegments?, h]
  split
  · next heq =>
    cases heq
    exact absurd rfl hpoint
  · next heq =>
    cases heq
    rfl
  · next heq => cases heq

/-- The token that a name is written as. -/
def token (quote : Char) (name : String) : List Char :=
  quote :: (doubled quote name.toList ++ [quote])

theorem scanIdentifier?_token {rest : List Char} (h : rest.head? ≠ some q) (name : String) :
    scanIdentifier? q (token q name ++ rest) = some (name.toList, rest) :=
  scanIdentifier?_append h name.toList

/-- **Tokens with points between them are read back**, up to a text that begins with neither. -/
theorem scanSegments?_joinPath (hq : q ≠ '.') {rest : List Char} (hpoint : rest.head? ≠ some '.')
    (hquote : rest.head? ≠ some q) {names : List String} (hne : names ≠ []) :
    scanSegments? q (joinPath (names.map (token q)) ++ rest) = some (names, rest) := by
  induction names with
  | nil => exact absurd rfl hne
  | cons name names ih =>
    cases names with
    | nil =>
      have hlast := scanSegments?_last (scanIdentifier?_token hquote name) hpoint
      rwa [String.ofList_toList] at hlast
    | cons name' names =>
      let more := joinPath ((name' :: names).map (token q)) ++ rest
      have hscan : scanIdentifier? q (token q name ++ '.' :: more) = some (name.toList, '.' :: more) :=
        scanIdentifier?_token (by simpa using Ne.symm hq) name
      have htext : joinPath ((name :: name' :: names).map (token q)) ++ rest =
          token q name ++ '.' :: (joinPath ((name' :: names).map (token q)) ++ rest) := by
        simp [joinPath]
      rw [htext, scanSegments?_point hscan, ih (List.cons_ne_nil name' names), Option.map_some,
        String.ofList_toList]

end

/-! ## Quoting a column -/

section

variable {q : Char} {p : ColumnPath}

theorem toList_joinWith_point (ss : List String) :
    (Text.joinWith "." ss).toList = joinPath (ss.map String.toList) := by
  induction ss using Text.joinWith.induct with
  | case1 => rfl
  | case2 s => rfl
  | case3 s t rest ih =>
    rw [Text.joinWith_cons_cons, String.toList_append, String.toList_append, ih, List.append_assoc]
    rfl

/-- **A plain path is written token by token.** -/
theorem ColumnPath.Plain.column_path (h : p.Plain q) :
    column q p.path.toList = joinPath (p.segments.map (token q)) := by
  have hsegments : Dialect.segments p.path.toList = p.segments.map String.toList := by
    rw [ColumnPath.path, toList_joinWith_point]
    refine segments_joinPath (by simpa using h.nonempty) fun s hs => ?_
    obtain ⟨name, hname, rfl⟩ := List.mem_map.mp hs
    exact (h.segment name hname).2
  have halias : splitAlias? p.path.toList = none := by
    rw [splitAlias?, splitLastAs?_eq_none_iff.mpr h.path]
  have htokens : p.segments.map (identifier q ∘ String.toList) = p.segments.map (token q) :=
    List.map_congr_left fun s hs => (h.segment s hs).1.identifier_eq
  rw [column_of_none halias, hsegments, List.map_map, htokens]

/-- **A plain column with a label is split where its label begins.** -/
theorem ColumnPath.Plain.splitAlias?_text (h : p.Plain q) {word label : String}
    (hword : IsAs word.toList) (hlabel : p.label = some label) :
    splitAlias? (p.text word).toList = some (p.path.toList, label.toList) := by
  obtain ⟨hname, hne, hshows, hpath⟩ := h.label label hlabel
  have htight : Text.Tight p.path.toList := by
    rw [ColumnPath.path, toList_joinWith_point]
    refine tight_joinPath fun s hs => ?_
    obtain ⟨name, hmem, rfl⟩ := List.mem_map.mp hs
    exact (h.segment name hmem).1.tight
  have htext : (p.text word).toList =
      p.path.toList ++ ' ' :: (word.toList ++ ' ' :: label.toList) := by
    simp [text, hlabel]
  have hlist {s : String} (hs : s ≠ "") : s.toList ≠ [] := fun hnil =>
    hs (String.toList_inj.mp hnil)
  rw [splitAlias?, htext, splitLastAs?_label hword (by simpa using hshows)]
  simp only [htight.stripBlanks_eq, hname.tight.stripBlanks_eq]
  exact if_neg (not_or.mpr ⟨hlist hpath, hlist hne⟩)

/-- **A plain column is written as tokens**, with points between the segments and ` AS ` before the
label. -/
theorem ColumnPath.Plain.column_text (h : p.Plain q) {word : String} (hword : IsAs word.toList) :
    column q (p.text word).toList =
      joinPath (p.segments.map (token q)) ++
        p.label.elim [] fun label => " AS ".toList ++ token q label := by
  cases hlabel : p.label with
  | none =>
    have htext : p.text word = p.path := by rw [ColumnPath.text, hlabel]
    rw [htext, h.column_path]
    exact (List.append_nil _).symm
  | some label =>
    rw [column_of_some (h.splitAlias?_text hword hlabel), h.column_path,
      (h.label label hlabel).1.identifier_eq, List.append_assoc]
    rfl

/-- **A plain column is read back from its quoted form.** -/
theorem ColumnPath.Plain.scanColumn?_column (h : p.Plain q) (hpoint : q ≠ '.') (hspace : q ≠ ' ')
    {word : String} (hword : IsAs word.toList) :
    scanColumn? q (column q (p.text word).toList) = some p := by
  obtain ⟨segments, label⟩ := p
  rw [h.column_text hword, scanColumn?]
  cases label with
  | none =>
    rw [scanSegments?_joinPath hpoint (by simp) (by simp) h.nonempty]
    rfl
  | some label =>
    have hscan : scanIdentifier? q (token q label ++ []) = some (label.toList, []) :=
      scanIdentifier?_token (by simp) label
    rw [List.append_nil] at hscan
    rw [scanSegments?_joinPath hpoint (by simp) (by simpa using Ne.symm hspace) h.nonempty]
    simp [hscan]

end

/-- **Quoting a column is invertible**: a reader gets back its segments and its label, and so no two
columns are written alike. -/
theorem scanColumn?_quoteColumn (d : Dialect) (hpoint : d.quote ≠ '.') (hspace : d.quote ≠ ' ') :
    (∀ (p : ColumnPath) (word : String), p.Plain d.quote → IsAs word.toList →
      scanColumn? d.quote (d.quoteColumn (p.text word)).toList = some p) ∧
    ∀ (p p' : ColumnPath) (word word' : String), p.Plain d.quote → p'.Plain d.quote →
      IsAs word.toList → IsAs word'.toList →
      d.quoteColumn (p.text word) = d.quoteColumn (p'.text word') → p = p' := by
  have hread : ∀ (p : ColumnPath) (word : String), p.Plain d.quote → IsAs word.toList →
      scanColumn? d.quote (d.quoteColumn (p.text word)).toList = some p := by
    intro p word hp hword
    rw [quoteColumn, String.toList_ofList]
    exact hp.scanColumn?_column hpoint hspace hword
  refine ⟨hread, fun p p' word word' hp hp' hword hword' heq => ?_⟩
  have hsame := hread p word hp hword
  rw [heq, hread p' word' hp' hword'] at hsame
  exact (Option.some.inj hsame).symm

/-- Two segments, one with a quote and the word `as` inside, and a label that is this word: the
column is read back, and one with a second quote in its name is written in another way. -/
theorem scanColumn?_quoteColumn_labelled :
    let p : ColumnPath := ⟨["us", "a`b as"], some "as"⟩
    let p' : ColumnPath := ⟨["us", "a``b as"], some "as"⟩
    p.text "aS" = "us.a`b as aS as" ∧
    scanColumn? mysql.quote (mysql.quoteColumn (p.text "aS")).toList = some p ∧
    mysql.quoteColumn (p.text "aS") ≠ mysql.quoteColumn (p'.text "as") := by
  intro p p'
  have hinvert := scanColumn?_quoteColumn mysql (by decide) (by decide)
  have hplain : p.Plain mysql.quote := by decide
  have hplain' : p'.Plain mysql.quote := by decide
  have hword : IsAs "aS".toList := by decide
  refine ⟨by decide, hinvert.1 p "aS" hplain hword, fun hsame => ?_⟩
  have heq : p = p' := hinvert.2 p p' "aS" "as" hplain hplain' hword (by decide) hsame
  exact absurd heq (by decide)

end Dialect

end FluentSql
