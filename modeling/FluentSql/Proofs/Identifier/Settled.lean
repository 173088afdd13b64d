import FluentSql.Proofs.Identifier.Parts

/-!
# Proofs/Identifier/Settled — what quoting a column leaves alone

    `a`.* AS `b c`  ──quoteColumn──▸  `a`.* AS `b c`
    `a.b`           ──quoteColumn──▸  ```a`.`b```

A column that is quoted throughout stays as it is: pieces with points between them, each `*` or with a
quote at both ends, and labels behind ` AS ` (`Settled`).  No other text does (`column_eq_self_iff`),
as what comes out of quoting is such a column: it has a quote or a star at both ends, so that it is
cut wherever it shows a point or ` as `.

It is cut inside its quotes too, though.  A name that was put in quotes as a whole, or that kept an
` as ` because one of the two parts was blank, is settled only by chance, and never if it has no
quotes of its own (`quoteColumn_eq_self_iff`).
-/

namespace FluentSql.Dialect

/-! ## Pieces -/

/-- **A quote that is not mistaken for a part of a column**: no blank, point or star, and no letter of
the word `as`. -/
structure Apart (quote : Char) : Prop where
  blank : Text.isBlank quote = false
  point : quote ≠ '.'
  star : quote ≠ '*'
  outside : OutsideAs quote

instance (quote : Char) : Decidable (Apart quote) :=
  decidable_of_iff
    (Text.isBlank quote = false ∧ quote ≠ '.' ∧ quote ≠ '*' ∧ OutsideAs quote)
    ⟨fun h => ⟨h.1, h.2.1, h.2.2.1, h.2.2.2⟩, fun h => ⟨h.blank, h.point, h.star, h.outside⟩⟩

example : Apart mysql.quote ∧ Apart sqlite.quote ∧ Apart flat.quote := by decide

/-- **A text as identifiers are written**: `*`, or with a quote at both ends. -/
def IsPiece (quote : Char) (s : List Char) : Prop := s = ['*'] ∨ isQuoted quote s = true

/-- **A text with a quote or a star at both ends.** -/
structure Framed (quote : Char) (s : List Char) : Prop where
  first : s.head? = some quote ∨ s.head? = some '*'
  last : s.getLast? = some quote ∨ s.getLast? = some '*'

section

variable {q : Char} {s u : List Char}

theorem Framed.ne_nil (h : Framed q s) : s ≠ [] := by
  rintro rfl
  simpa using h.first

theorem Framed.tight (hq : Apart q) (h : Framed q s) : Text.Tight s where
  first c hc := by
    rcases h.first with hs | hs <;> obtain rfl := Option.some.inj (hs.symm.trans hc)
    · exact hq.blank
    · decide
  last c hc := by
    rcases h.last with hs | hs <;> obtain rfl := Option.some.inj (hs.symm.trans hc)
    · exact hq.blank
    · decide

/-- Between two framed texts anything can stand. -/
theorem Framed.append (hs : Framed q s) (hu : Framed q u) (t : List Char) :
    Framed q (s ++ (t ++ u)) where
  first := by
    rw [List.head?_append_of_ne_nil s hs.ne_nil]
    exact hs.first
  last := by
    rw [← List.append_assoc, List.getLast?_append_of_ne_nil _ hu.ne_nil]
    exact hu.last

/-- A space in front of a framed text begins no ` as `. -/
theorem Framed.showsAs_space (hq : Apart q) (h : Framed q s) :
    ShowsAs (' ' :: s) ↔ ShowsAs s := by
  have hfirst : ∃ c rest, s = c :: rest ∧ OutsideAs c := by
    rcases h.first with hs | hs <;> obtain ⟨rest, hrest⟩ := List.head?_eq_some_iff.mp hs
    · exact ⟨q, rest, hrest, hq.outside⟩
    · exact ⟨'*', rest, hrest, by decide⟩
  obtain ⟨c, rest, rfl, hc⟩ := hfirst
  have hspace : ¬ ShowsAs [' '] := by decide
  have happend := showsAs_append_cons hc (s := [' ']) (t := rest)
  rw [or_iff_right hspace] at happend
  exact happend.trans (showsAs_cons hc).symm

theorem framed_joinPath {ss : List (List Char)} (hne : ss ≠ []) (h : ∀ s ∈ ss, Framed q s) :
    Framed q (joinPath ss) := by
  induction ss using joinPath.induct with
  | case1 => exact absurd rfl hne
  | case2 s => exact h s List.mem_cons_self
  | case3 s t rest ih =>
    obtain ⟨hs, hrest⟩ := List.forall_mem_cons.mp h
    exact hs.append (ih (List.cons_ne_nil t rest) hrest) ['.']

theorem IsPiece.framed (h : IsPiece q s) : Framed q s := by
  rcases h with rfl | h
  · exact ⟨.inr rfl, .inr rfl⟩
  · obtain ⟨body, rfl⟩ := isQuoted_iff.mp h
    exact ⟨.inl rfl, .inl (by rw [← List.cons_append, List.getLast?_concat])⟩

/-- **Identifiers are written as pieces.** -/
theorem isPiece_identifier (q : Char) (name : List Char) : IsPiece q (identifier q name) := by
  rw [identifier]
  split
  · assumption
  · exact .inr (isQuoted_iff.mpr ⟨_, rfl⟩)

/-- A piece is an identifier as it stands. -/
theorem IsPiece.identifier_eq (hq : Apart q) (h : IsPiece q s) : identifier q s = s := by
  have hstrip : Text.stripBlanks s = s := (h.framed.tight hq).stripBlanks_eq
  rw [identifier, hstrip]
  exact if_pos h

theorem point_notMem_identifier (hq : Apart q) {name : List Char} (h : '.' ∉ name) :
    '.' ∉ identifier q name := fun hc =>
  (mem_identifier hc).elim (fun hc => hq.point hc.symm) h

/-- Quotes bring in no ` as `. -/
theorem showsAs_identifier (hq : Apart q) (name : List Char) :
    ShowsAs (identifier q name) ↔ ShowsAs (Text.stripBlanks name) := by
  rw [identifier]
  split
  · rfl
  · rw [showsAs_cons hq.outside, showsAs_append_cons hq.outside, or_iff_left not_showsAs_nil]
    exact showsAs_doubled hq.outside [] _

/-- **A quoted column has a quote or a star at both ends.** -/
theorem framed_column (q : Char) (path : List Char) : Framed q (column q path) := by
  induction path using column.induct with
  | case1 path name label heq ih =>
    rw [column_of_some heq, List.append_assoc]
    exact ih.append (isPiece_identifier q label).framed _
  | case2 path heq =>
    rw [column_of_none heq]
    refine framed_joinPath (by simpa using segments_ne_nil path) fun s hs => ?_
    obtain ⟨segment, -, rfl⟩ := List.mem_map.mp hs
    exact (isPiece_identifier q segment).framed

end

/-! ## Columns that stay as they are -/

/-- **A column that is quoted throughout**: pieces with points between them, and labels behind ` AS `,
none of which shows another point or ` as `. -/
inductive Settled (quote : Char) : List Char → Prop
  | path {ss : List (List Char)} (nonempty : ss ≠ [])
      (piece : ∀ s ∈ ss, IsPiece quote s ∧ '.' ∉ s ∧ ¬ ShowsAs s) : Settled quote (joinPath ss)
  | labelled {name label : List Char} (path : Settled quote name) (piece : IsPiece quote label)
      (last : ¬ ShowsAs label) : Settled quote (name ++ " AS ".toList ++ label)

section

variable {q : Char} {s : List Char}

theorem Settled.framed (h : Settled q s) : Framed q s := by
  induction h with
  | path hne hpiece => exact framed_joinPath hne fun s hs => (hpiece s hs).1.framed
  | labelled _ hlabel _ ih =>
    rw [List.append_assoc]
    exact ih.append hlabel.framed _

/-- **A column that is quoted throughout stays as it is.** -/
theorem Settled.column_eq (hq : Apart q) (h : Settled q s) : column q s = s := by
  induction h with
  | @path ss hne hpiece =>
    have halias : splitAlias? (joinPath ss) = none :=
      splitAlias?_eq_none_of_not_showsAs (not_showsAs_joinPath fun s hs => (hpiece s hs).2.2)
    have hsegments : segments (joinPath ss) = ss :=
      segments_joinPath hne fun s hs => (hpiece s hs).2.1
    have hmap : ss.map (identifier q) = ss.map id :=
      List.map_congr_left fun s hs => (hpiece s hs).1.identifier_eq hq
    rw [column_of_none halias, hsegments, hmap, List.map_id]
  | @labelled name label hname hlabel hlast ih =>
    have hspace : ¬ ShowsAs (' ' :: label) := mt (hlabel.framed.showsAs_space hq).mp hlast
    have hsplit : splitLastAs? (name ++ " AS ".toList ++ label) = some (name, label) := by
      rw [List.append_assoc]
      exact splitLastAs?_label (by decide : IsAs ['A', 'S']) hspace name
    have halias : splitAlias? (name ++ " AS ".toList ++ label) = some (name, label) := by
      rw [splitAlias?_of_tight ((Settled.labelled hname hlabel hlast).framed.tight hq), hsplit,
        Option.map_some, (hname.framed.tight hq).stripBlanks_eq,
        (hlabel.framed.tight hq).stripBlanks_eq]
    rw [column_of_some halias, ih, hlabel.identifier_eq hq]

/-- **A path is settled once quoted**, if none of its segments shows ` as `. -/
theorem settled_path (hq : Apart q) {path : List Char}
    (h : ∀ s ∈ segments path, ¬ ShowsAs (Text.stripBlanks s)) :
    Settled q (joinPath ((segments path).map (identifier q))) := by
  refine .path (by simpa using segments_ne_nil path) fun s hs => ?_
  obtain ⟨segment, hsegment, rfl⟩ := List.mem_map.mp hs
  exact ⟨isPiece_identifier q segment,
    point_notMem_identifier hq (point_notMem_segments hsegment),
    mt (showsAs_identifier hq segment).mp (h segment hsegment)⟩

/-- A column with a label is settled once quoted, if its path is. -/
theorem settled_labelled (hq : Apart q) {path name label : List Char}
    (heq : splitAlias? path = some (name, label)) (h : Settled q (column q name)) :
    Settled q (column q path) := by
  obtain ⟨before, after, hafter, rfl, rfl⟩ := eq_of_splitAlias? heq
  rw [column_of_some heq]
  refine .labelled h (isPiece_identifier q _) (mt (showsAs_identifier hq _).mp ?_)
  exact not_showsAs_stripBlanks (not_showsAs_stripBlanks hafter)

/-- **A tight column is settled once quoted**: it is cut wherever it shows ` as `, and what a cut leaves
of it is tight again. -/
theorem settled_column_of_tight (hq : Apart q) {path : List Char} (hpath : Text.Tight path) :
    Settled q (column q path) := by
  induction path using column.induct with
  | case1 path name label heq ih =>
    obtain ⟨before, after, -, rfl, -⟩ := eq_of_splitAlias? heq
    exact settled_labelled hq heq (ih (Text.tight_stripBlanks before))
  | case2 path heq =>
    have hnone : ¬ ShowsAs path := not_showsAs_of_tight hpath heq
    rw [column_of_none heq]
    exact settled_path hq fun s hs => not_showsAs_stripBlanks fun hshows =>
      hnone (hshows.mono (joinPath_segments path ▸ infix_joinPath hs))

/-- **What quoting a column leaves alone** are the columns that are quoted throughout. -/
theorem column_eq_self_iff (hq : Apart q) : column q s = s ↔ Settled q s := by
  refine ⟨fun h => ?_, Settled.column_eq hq⟩
  have htight : Text.Tight s := h ▸ (framed_column q s).tight hq
  exact h ▸ settled_column_of_tight hq htight

/-- **A column is settled once quoted**, if it is split, or else none of its segments shows ` as `. -/
theorem settled_column (hq : Apart q) {path : List Char}
    (h : splitAlias? path = none → ∀ s ∈ segments path, ¬ ShowsAs (Text.stripBlanks s)) :
    Settled q (column q path) := by
  cases heq : splitAlias? path with
  | none =>
    rw [column_of_none heq]
    exact settled_path hq (h heq)
  | some r =>
    obtain ⟨before, after, -, hname, -⟩ := eq_of_splitAlias? heq
    refine settled_labelled hq heq (settled_column_of_tight hq ?_)
    rw [hname]
    exact Text.tight_stripBlanks before

/-- **An identifier is settled once quoted**, if it shows no point and no ` as `. -/
theorem settled_identifier (hq : Apart q) {name : List Char} (hpoint : '.' ∉ name)
    (hshows : ¬ ShowsAs (Text.stripBlanks name)) : Settled q (identifier q name) := by
  have hsegments : segments name = [name] := segments_of_notMem hpoint
  have hpath : Settled q (joinPath ((segments name).map (identifier q))) :=
    settled_path hq (by simpa [hsegments] using hshows)
  rwa [hsegments] at hpath

/-! ## Names without quotes -/

/-- What follows ` AS ` inside the quotes around a name begins with no quote. -/
theorem exists_behind_as (hq : Apart q) {bare u v : List Char} (hbare : q ∉ bare)
    (htight : Text.Tight bare) (h : q :: (bare ++ [q]) = u ++ (" AS ".toList ++ v)) :
    ∃ c rest, v = c :: (rest ++ [q]) ∧ c ≠ q := by
  have hspace : q ≠ ' ' := hq.outside.1
  have hblank : ∀ s : List Char, bare ≠ s ++ [' '] := by
    rintro s rfl
    obtain ⟨c, hc, hlast⟩ := htight.exists_back (List.cons_ne_nil ' ' [])
    rw [List.mem_singleton.mp hc] at hlast
    exact absurd hlast (by decide)
  obtain ⟨u, rfl⟩ : ∃ u', u = q :: u' := by
    cases u with
    | nil => exact absurd (List.cons.inj h).1 hspace
    | cons c u => exact ⟨u, by rw [(List.cons.inj h).1]⟩
  have hrest : bare ++ [q] = u ++ (" AS ".toList ++ v) := (List.cons.inj h).2
  rcases List.eq_nil_or_concat' v with rfl | ⟨v, e, rfl⟩
  · have hlast : bare ++ [q] = u ++ " AS".toList ++ [' '] := by
      rw [hrest, List.append_nil, List.append_assoc]
      rfl
    exact absurd (List.cons.inj (List.append_inj' hlast rfl).2).1 hspace
  · rw [← List.append_assoc, ← List.append_assoc] at hrest
    obtain ⟨hinner, hlast⟩ := List.append_inj' hrest rfl
    obtain rfl : q = e := (List.cons.inj hlast).1
    cases v with
    | nil =>
      refine absurd ?_ (hblank (u ++ " AS".toList))
      rw [hinner, List.append_nil, List.append_assoc]
      rfl
    | cons c v =>
      refine ⟨c, v, rfl, fun hc => hbare ?_⟩
      rw [hinner, hc]
      simp

/-- **A name without quotes shows no ` as ` in a settled path**: the label behind it would begin
inside the quotes of the name, and so with no quote. -/
theorem Settled.not_showsAs (hq : Apart q) {ss : List (List Char)}
    (hss : ∀ s ∈ ss, ∃ name, q ∉ name ∧ s = identifier q name) (h : Settled q (joinPath ss)) :
    ¬ ShowsAs (joinPath ss) := by
  generalize hs : joinPath ss = s at h
  cases h with
  | path _ hpiece => exact not_showsAs_joinPath fun s hs => (hpiece s hs).2.2
  | @labelled name label _ hlabel _ =>
    exfalso
    obtain ⟨r, hr, u, v, rest, hcut, rfl⟩ := exists_of_joinPath (by decide) (by decide) hs.symm
    obtain ⟨bare, hbare, rfl⟩ := hss r hr
    have hstrip : q ∉ Text.stripBlanks bare := fun hc => hbare (Text.stripBlanks_subset bare hc)
    rw [identifier_of_notMem hbare, List.append_assoc] at hcut
    split at hcut
    · have hlength := congrArg List.length hcut
      simp at hlength
      omega
    · obtain ⟨c, v, rfl, hc⟩ :=
        exists_behind_as hq hstrip (Text.tight_stripBlanks bare) hcut
      rcases hlabel with hstar | hquoted
      · simp at hstar
      · obtain ⟨body, hbody⟩ := isQuoted_iff.mp hquoted
        exact hc (List.cons.inj hbody).1

/-- **Where a settled text shows no ` as ` its segments are pieces.** -/
theorem Settled.isPiece (hq : Apart q) (h : Settled q s) (hs : ¬ ShowsAs s) {r : List Char}
    (hr : r ∈ segments s) : IsPiece q r := by
  have hcolumn := h.column_eq hq
  rw [column_of_none (splitAlias?_eq_none_of_not_showsAs hs)] at hcolumn
  have hsegments : segments s = (segments s).map (identifier q) := by
    conv_lhs => rw [← hcolumn]
    refine segments_joinPath (by simpa using segments_ne_nil s) fun t ht => ?_
    obtain ⟨segment, hsegment, rfl⟩ := List.mem_map.mp ht
    exact point_notMem_identifier hq (point_notMem_segments hsegment)
  rw [hsegments] at hr
  obtain ⟨segment, -, rfl⟩ := List.mem_map.mp hr
  exact isPiece_identifier q segment

/-- **A name without quotes that is settled once quoted shows no point**: the first segment would have
but one quote. -/
theorem point_notMem_of_settled (hq : Apart q) {name : List Char} (hname : q ∉ name)
    (h : Settled q (identifier q name)) (hs : ¬ ShowsAs (identifier q name)) : '.' ∉ name := by
  intro hpoint
  have hstrip : '.' ∈ Text.stripBlanks name := Text.mem_stripBlanks hpoint (by decide)
  obtain ⟨front, back, hcut, hfront⟩ := List.eq_append_cons_of_mem hstrip
  have hbare : q ∉ front := fun hc =>
    hname (Text.stripBlanks_subset name (by rw [hcut]; exact List.mem_append_left _ hc))
  have hidentifier : identifier q name = q :: front ++ '.' :: (back ++ [q]) := by
    have hstar : Text.stripBlanks name ≠ ['*'] := fun hstar => by
      rw [hstar] at hstrip
      exact absurd hstrip (by decide)
    rw [identifier_of_notMem hname, if_neg hstar, hcut]
    simp
  have hsegments := segments_append (List.not_mem_cons_of_ne_of_not_mem hq.point.symm hfront)
    (back ++ [q])
  have hpiece : IsPiece q (q :: front) := by
    refine h.isPiece hq hs ?_
    rw [hidentifier, hsegments]
    exact List.mem_cons_self
  rcases hpiece with hstar | hquoted
  · exact hq.star (List.cons.inj hstar).1
  · obtain ⟨body, hbody⟩ := isQuoted_iff.mp hquoted
    exact hbare (by rw [(List.cons.inj hbody).2]; simp)

end

/-! ## Quoting twice -/

/-- **What quoting a column leaves alone**: the texts that are settled.  A name is one once it is
quoted as an identifier if it shows no point and no ` as `, and once it is quoted as a column if it is
split or none of its segments shows ` as `; and of the names without quotes, no others are. -/
theorem quoteColumn_eq_self_iff (d : Dialect) (hq : Apart d.quote) :
    (∀ text : String, d.quoteColumn text = text ↔ Settled d.quote text.toList) ∧
    ∀ name : String,
      let whole := '.' ∉ name.toList ∧ ¬ ShowsAs (Text.stripBlanks name.toList)
      let parted := splitAlias? name.toList = none →
        ∀ s ∈ segments name.toList, ¬ ShowsAs (Text.stripBlanks s)
      (whole → d.quoteColumn (d.quoteIdentifier name) = d.quoteIdentifier name) ∧
      (parted → d.quoteColumn (d.quoteColumn name) = d.quoteColumn name) ∧
      (d.quote ∉ name.toList →
        (d.quoteColumn (d.quoteIdentifier name) = d.quoteIdentifier name → whole) ∧
        (d.quoteColumn (d.quoteColumn name) = d.quoteColumn name → parted)) := by
  have hsettled : ∀ text : String,
      d.quoteColumn text = text ↔ Settled d.quote text.toList := by
    intro text
    rw [← column_eq_self_iff hq, quoteColumn, ← String.toList_inj, String.toList_ofList]
  refine ⟨hsettled, fun name => ?_⟩
  have hidentifier : (d.quoteIdentifier name).toList = identifier d.quote name.toList :=
    String.toList_ofList
  have hcolumn : (d.quoteColumn name).toList = column d.quote name.toList := String.toList_ofList
  rw [hsettled, hsettled, hidentifier, hcolumn]
  refine ⟨fun h => settled_identifier hq h.1 h.2, settled_column hq, fun hname =>
    ⟨fun h => ?_, fun h halias s hs => ?_⟩⟩
  · have hpath : Settled d.quote (joinPath [identifier d.quote name.toList]) := h
    have hshows : ¬ ShowsAs (identifier d.quote name.toList) :=
      hpath.not_showsAs hq (by simpa using ⟨_, hname, rfl⟩)
    exact ⟨point_notMem_of_settled hq hname h hshows, mt (showsAs_identifier hq _).mpr hshows⟩
  · rw [column_of_none halias] at h
    have hshows := h.not_showsAs hq fun t ht => by
      obtain ⟨segment, hsegment, rfl⟩ := List.mem_map.mp ht
      exact ⟨segment, fun hc => hname (subset_of_mem_segments hsegment hc), rfl⟩
    exact mt (showsAs_identifier hq s).mpr fun hidentifier =>
      hshows (hidentifier.mono (infix_joinPath (List.mem_map_of_mem hs)))

/-- A label with a space in it and a column with a label stay as they are once quoted; a name with a
point in it does not, and neither does one with an ` as ` whose label is missing. -/
theorem quoteColumn_eq_self_iff_named :
    (mysql.quoteColumn (mysql.quoteIdentifier "as `of` now") = mysql.quoteIdentifier "as `of` now" ∧
      mysql.quoteColumn (mysql.quoteColumn "us.a as b.c") = mysql.quoteColumn "us.a as b.c") ∧
    sqlite.quoteColumn (sqlite.quoteIdentifier "a.b") ≠ sqlite.quoteIdentifier "a.b" ∧
    sqlite.quoteColumn (sqlite.quoteColumn "a as b as ") ≠ sqlite.quoteColumn "a as b as " := by
  have hmysql := (quoteColumn_eq_self_iff mysql (by decide)).2
  have hsqlite := (quoteColumn_eq_self_iff sqlite (by decide)).2
  refine ⟨⟨(hmysql "as `of` now").1 (by decide), (hmysql "us.a as b.c").2.1 (by decide)⟩,
    fun h => ?_, fun h => ?_⟩
  · obtain ⟨hpoint, -⟩ := ((hsqlite "a.b").2.2 (by decide)).1 h
    exact hpoint (by decide)
  · exact absurd (((hsqlite "a as b as ").2.2 (by decide)).2 h) (by decide)

/-- **Quoting a column looks for its parts inside quotes too**: a quoted name with a point in it is cut
there, and one with an ` as ` in it is taken for a column with a label. -/
theorem quoteColumn_cuts_quoted :
    mysql.quoteIdentifier "a.b" = "`a.b`" ∧ mysql.quoteColumn "`a.b`" = "```a`.`b```" ∧
      mysql.quoteColumn "a as b as " = "`a as b as`" ∧
      mysql.quoteColumn "`a as b as`" = "```a` AS `b as```" := by
  decide +kernel

end FluentSql.Dialect
