import FluentSql.Builder.Basic
import FluentSql.Proofs.Connective
import FluentSql.QueryLog

/-!
# Proofs/Alignment/Marked — a text with its values in place

A statement keeps its text and its values apart, and only their order ties a placeholder to its
value.  A `Marked` text ties them by construction: it is a list of characters in which a value stands
where its placeholder is written.  Reading off the characters gives the text, reading off the values
gives the bindings, and both readings turn concatenation into concatenation.

`Spells m sql values` says that a marked text is a reading of a statement.  Then the placeholders of
the statement are the values of the marked text, one by one and in order (`Spells.placeholder`), and
substituting literals for placeholders writes each literal where its value stands
(`Spells.substitute`).
-/

namespace FluentSql

/-- **A text without a placeholder.** -/
abbrev NoPlaceholder (s : String) : Prop := '?' ∉ s.toList

/-- **A character of a statement, or the value behind one of its placeholders.** -/
inductive Mark
  | char (c : Char)
  | value (v : Value)

namespace Mark

/-- The character a mark is written as. -/
def glyph : Mark → Char
  | char c => c
  | value _ => '?'

/-- The value of a mark, if it is one. -/
def value? : Mark → Option Value
  | char _ => none
  | value v => some v

/-- A mark with the literal of its value. -/
def literal : Mark → List Char
  | char c => [c]
  | value v => v.literal.toList

end Mark

/-- **A text with its values in place.** -/
abbrev Marked := List Mark

namespace Marked

/-- The text of a marked text, a placeholder for each value. -/
def chars (m : Marked) : List Char := m.map Mark.glyph

/-- The same as a string. -/
def sql (m : Marked) : String := String.ofList m.chars

/-- The values of a marked text, in the order of their places. -/
def values (m : Marked) : List Value := m.filterMap Mark.value?

/-- **The text with every value written as its literal, in its place.** -/
def inlined (m : Marked) : List Char := m.flatMap Mark.literal

/-- **Every placeholder is the place of a value** — none is a mere character. -/
def Clean (m : Marked) : Prop := Mark.char '?' ∉ m

/-- A text without values. -/
def plain (s : String) : Marked := s.toList.map Mark.char

/-- One value. -/
def hole (v : Value) : Marked := [.value v]

/-! ## The readings of a concatenation -/

@[simp] theorem sql_nil : sql [] = "" := rfl

@[simp] theorem sql_append (m n : Marked) : (m ++ n).sql = m.sql ++ n.sql := by
  rw [sql, chars, List.map_append, String.ofList_append]
  rfl

@[simp] theorem sql_plain (s : String) : (plain s).sql = s := by
  have h : (plain s).chars = s.toList := by
    simp [plain, chars, Function.comp_def, Mark.glyph]
  rw [sql, h, String.ofList_toList]

@[simp] theorem sql_hole (v : Value) : (hole v).sql = "?" := rfl

@[simp] theorem toList_sql (m : Marked) : m.sql.toList = m.chars := String.toList_ofList

@[simp] theorem values_nil : values [] = [] := rfl

@[simp] theorem values_append (m n : Marked) : (m ++ n).values = m.values ++ n.values :=
  List.filterMap_append

@[simp] theorem values_plain (s : String) : (plain s).values = [] := by
  simp [plain, values, List.filterMap_map, Function.comp_def, Mark.value?]

@[simp] theorem values_hole (v : Value) : (hole v).values = [v] := rfl

@[simp] theorem clean_nil : Clean [] := List.not_mem_nil

@[simp] theorem clean_append {m n : Marked} : (m ++ n).Clean ↔ m.Clean ∧ n.Clean := by
  simp only [Clean, List.mem_append, not_or]

@[simp] theorem clean_plain {s : String} : (plain s).Clean ↔ NoPlaceholder s := by
  simp [Clean, plain, NoPlaceholder]

@[simp] theorem clean_hole (v : Value) : (hole v).Clean := by simp [Clean, hole]

/-! ## Separators -/

/-- Marked texts with a separator between them. -/
def joinWith (sep : String) : List Marked → Marked
  | [] => []
  | [m] => m
  | m :: n :: rest => m ++ plain sep ++ joinWith sep (n :: rest)

theorem sql_joinWith (sep : String) (ms : List Marked) :
    (joinWith sep ms).sql = Text.joinWith sep (ms.map sql) := by
  induction ms using joinWith.induct with
  | case1 => rfl
  | case2 m => rfl
  | case3 m n rest ih =>
    rw [joinWith, sql_append, sql_append, sql_plain, ih]
    rfl

theorem values_joinWith (sep : String) (ms : List Marked) :
    (joinWith sep ms).values = ms.flatMap values := by
  induction ms using joinWith.induct with
  | case1 => rfl
  | case2 m => simp [joinWith]
  | case3 m n rest ih =>
    rw [joinWith, values_append, values_append, values_plain, ih, List.append_nil]
    rfl

theorem clean_joinWith {sep : String} (hsep : NoPlaceholder sep) {ms : List Marked}
    (h : ∀ m ∈ ms, m.Clean) : (joinWith sep ms).Clean := by
  induction ms using joinWith.induct with
  | case1 => exact clean_nil
  | case2 m => exact h m List.mem_cons_self
  | case3 m n rest ih =>
    rw [joinWith, clean_append, clean_append, clean_plain]
    exact ⟨⟨h m List.mem_cons_self, hsep⟩, ih fun x hx => h x (List.mem_cons_of_mem m hx)⟩

/-! ## Cutting off a beginning -/

/-- **A marked text cut short in front as its characters are.** -/
def cut (f : List Char → List Char) (m : Marked) : Marked :=
  m.drop (m.length - (f m.chars).length)

section Cut

variable {f : List Char → List Char}

/-- A cut splits the marked text where its characters are split. -/
theorem exists_append_cut (hf : Trims f) (m : Marked) :
    ∃ p : Marked, m = p ++ m.cut f ∧ (m.cut f).chars = f m.chars ∧ '?' ∉ p.chars := by
  obtain ⟨p, hp, hfree⟩ := hf m.chars
  have hlen : m.length - (f m.chars).length = p.length := by
    have := congrArg List.length hp
    rw [chars, List.length_map, List.length_append] at this
    rw [chars]
    omega
  have htake : chars (m.take p.length) = p := by
    rw [chars, List.map_take]
    exact (congrArg (List.take p.length) hp).trans List.take_left
  refine ⟨m.take p.length, ?_, ?_, ?_⟩
  · rw [cut, hlen, List.take_append_drop]
  · rw [cut, hlen, chars, List.map_drop]
    exact (congrArg (List.drop p.length) hp).trans List.drop_left
  · rwa [htake]

theorem sql_cut (hf : Trims f) (m : Marked) : (m.cut f).sql = String.ofList (f m.chars) := by
  obtain ⟨_, -, hc, -⟩ := exists_append_cut hf m
  rw [sql, hc]

/-- **A cut loses no value.** -/
theorem values_cut (hf : Trims f) (m : Marked) : (m.cut f).values = m.values := by
  obtain ⟨p, hm, -, hp⟩ := exists_append_cut hf m
  have hnone : p.values = [] := List.filterMap_eq_nil_iff.mpr fun k hk => by
    cases k with
    | char c => rfl
    | value v => exact absurd (List.mem_map_of_mem (f := Mark.glyph) hk) hp
  calc (m.cut f).values = p.values ++ (m.cut f).values := by rw [hnone, List.nil_append]
    _ = (p ++ m.cut f).values := (values_append p _).symm
    _ = m.values := by rw [← hm]

theorem clean_cut {m : Marked} (h : m.Clean) : (m.cut f).Clean :=
  fun hc => h (List.mem_of_mem_drop hc)

end Cut

/-! ## Filling in values -/

/-- **A text with values in the places of its placeholders**, in order. -/
def fill : List Char → List Value → Marked
  | [], _ => []
  | c :: s, values =>
    if c = '?' then
      match values with
      | [] => .char c :: fill s []
      | v :: values => .value v :: fill s values
    else .char c :: fill s values

theorem chars_fill (s : List Char) (vs : List Value) : (fill s vs).chars = s := by
  induction s generalizing vs with
  | nil => rfl
  | cons c s ih =>
    unfold fill
    split
    · next hc => cases vs <;> simp_all [chars, Mark.glyph]
    · simpa [chars, Mark.glyph] using ih vs

/-- **Enough values fill every place, and no value is left over.** -/
theorem values_fill {s : List Char} {vs : List Value} (h : s.count '?' = vs.length) :
    (fill s vs).values = vs ∧ (fill s vs).Clean := by
  induction s generalizing vs with
  | nil => exact ⟨(List.eq_nil_of_length_eq_zero h.symm).symm, clean_nil⟩
  | cons c s ih =>
    unfold fill
    by_cases hc : c = '?'
    · rw [if_pos hc]
      subst hc
      cases vs with
      | nil => simp at h
      | cons v vs =>
        obtain ⟨hv, hclean⟩ := ih (by simpa using h)
        exact ⟨congrArg (v :: ·) hv, List.not_mem_cons_of_ne_of_not_mem (by simp) hclean⟩
    · rw [if_neg hc]
      obtain ⟨hv, hclean⟩ := ih (by rwa [List.count_cons_of_ne hc] at h)
      exact ⟨hv, List.not_mem_cons_of_ne_of_not_mem (by simpa using Ne.symm hc) hclean⟩

/-! ## Placeholders are values -/

/-- There are as many placeholders as values. -/
theorem count_chars {m : Marked} (h : m.Clean) : m.chars.count '?' = m.values.length := by
  induction m with
  | nil => rfl
  | cons k m ih =>
    have ih := ih fun hm => h (List.mem_cons_of_mem k hm)
    cases k with
    | char c =>
      have hc : c ≠ '?' := fun hc => h (hc ▸ List.mem_cons_self)
      exact (List.count_cons_of_ne hc).trans ih
    | value v => exact List.count_cons_self.trans (congrArg (· + 1) ih)

/-- **A placeholder is the place of a value**, and the one whose turn it is. -/
theorem exists_value_of_placeholder {m : Marked} (h : m.Clean) {i : Nat}
    (hi : m.chars[i]? = some '?') :
    ∃ v, m[i]? = some (.value v) ∧ m.values[(m.chars.take i).count '?']? = some v := by
  induction m generalizing i with
  | nil => simp [chars] at hi
  | cons k m ih =>
    have ih := @ih fun hm => h (List.mem_cons_of_mem k hm)
    cases i with
    | zero =>
      cases k with
      | char c => exact absurd (Option.some.inj hi ▸ List.mem_cons_self) h
      | value v => exact ⟨v, rfl, rfl⟩
    | succ i =>
      obtain ⟨v, hm, hv⟩ := ih hi
      refine ⟨v, hm, ?_⟩
      cases k with
      | char c =>
        have hc : c ≠ '?' := fun hc => h (hc ▸ List.mem_cons_self)
        exact (congrArg ((values m)[·]?) (List.count_cons_of_ne hc)).trans hv
      | value w =>
        have hcount : (chars (.value w :: m)).take (i + 1) = '?' :: (chars m).take i := rfl
        rw [hcount, List.count_cons_self]
        exact hv

/-- **Substitution writes each literal where its value stands.** -/
theorem substitute_chars {m : Marked} (h : m.Clean) :
    FluentSql.substitute m.chars m.values = m.inlined := by
  induction m with
  | nil => rfl
  | cons k m ih =>
    have ih := ih fun hm => h (List.mem_cons_of_mem k hm)
    cases k with
    | char c =>
      have hc : c ≠ '?' := fun hc => h (hc ▸ List.mem_cons_self)
      exact (if_neg hc).trans (congrArg (c :: ·) ih)
    | value v => exact congrArg (v.literal.toList ++ ·) ih

end Marked

/-! ## Readings of statements -/

/-- **A marked text is a reading of a text with values** — it has that text and those values, and
every placeholder of the text is the place of one of them. -/
structure Spells (m : Marked) (sql : String) (values : List Value) : Prop where
  sql : m.sql = sql
  values : m.values = values
  clean : m.Clean

namespace Spells

variable {m : Marked} {sql : String} {values : List Value}

theorem chars (h : Spells m sql values) : sql.toList = m.chars := by
  rw [← h.sql, Marked.toList_sql]

/-- **A statement has as many placeholders as values.** -/
theorem count (h : Spells m sql values) : sql.toList.count '?' = values.length := by
  rw [h.chars, ← h.values]
  exact Marked.count_chars h.clean

/-- **The value behind a placeholder is the one that stands in its place.** -/
theorem placeholder (h : Spells m sql values) {i : Nat} (hi : sql.toList[i]? = some '?') :
    ∃ v, m[i]? = some (.value v) ∧ values[(sql.toList.take i).count '?']? = some v := by
  rw [h.chars] at hi ⊢
  rw [← h.values]
  exact Marked.exists_value_of_placeholder h.clean hi

/-- **Literals for placeholders are literals in place.** -/
theorem substitute (h : Spells m sql values) :
    FluentSql.substitute sql.toList values = m.inlined := by
  rw [h.chars, ← h.values]
  exact Marked.substitute_chars h.clean

/-! ## Putting readings together -/

theorem nil : Spells [] "" [] := ⟨rfl, rfl, Marked.clean_nil⟩

/-- A text without placeholders or values. -/
theorem plain (h : NoPlaceholder sql) : Spells (.plain sql) sql [] :=
  ⟨Marked.sql_plain sql, Marked.values_plain sql, Marked.clean_plain.mpr h⟩

/-- One placeholder and its value. -/
theorem hole (v : Value) : Spells (.hole v) "?" [v] :=
  ⟨Marked.sql_hole v, Marked.values_hole v, Marked.clean_hole v⟩

/-- A text with as many placeholders as values. -/
theorem fill (h : sql.toList.count '?' = values.length) :
    Spells (.fill sql.toList values) sql values :=
  ⟨by rw [Marked.sql, Marked.chars_fill, String.ofList_toList], (Marked.values_fill h).1,
    (Marked.values_fill h).2⟩

theorem append {n : Marked} {sql' : String} {values' : List Value} (h : Spells m sql values)
    (h' : Spells n sql' values') : Spells (m ++ n) (sql ++ sql') (values ++ values') :=
  ⟨by rw [Marked.sql_append, h.sql, h'.sql], by rw [Marked.values_append, h.values, h'.values],
    Marked.clean_append.mpr ⟨h.clean, h'.clean⟩⟩

/-- Text without placeholders in front. -/
theorem behind {left : String} (hl : NoPlaceholder left) (h : Spells m sql values) :
    Spells (.plain left ++ m) (left ++ sql) values := (plain hl).append h

/-- Text without placeholders at the end. -/
theorem before {right : String} (hr : NoPlaceholder right) (h : Spells m sql values) :
    Spells (m ++ .plain right) (sql ++ right) values := by
  simpa using h.append (plain hr)

/-- The reading of a marked text that is read off it. -/
theorem refl (h : m.Clean) : Spells m (Marked.sql m) (Marked.values m) := ⟨rfl, rfl, h⟩

/-- **Texts with a separator between them are read one by one.** -/
theorem joinWith {sep : String} (hsep : NoPlaceholder sep) {ms : List Marked} {texts : List String}
    (htexts : ms.map Marked.sql = texts) (hvalues : ms.flatMap Marked.values = values)
    (h : ∀ m ∈ ms, m.Clean) : Spells (.joinWith sep ms) (Text.joinWith sep texts) values :=
  ⟨by rw [Marked.sql_joinWith, htexts], by rw [Marked.values_joinWith, hvalues],
    Marked.clean_joinWith hsep h⟩

/-- A beginning without placeholders cut off. -/
theorem cut {f : List Char → List Char} (hf : Trims f) (h : Spells m sql values) :
    Spells (m.cut f) (String.ofList (f sql.toList)) values :=
  ⟨by rw [Marked.sql_cut hf, h.chars], by rw [Marked.values_cut hf, h.values],
    Marked.clean_cut h.clean⟩

/-- The first connective taken off. -/
theorem dropLeading (h : Spells m sql values) :
    Spells (m.cut Connective.dropLeading) (Connective.dropLeadingText sql) values := by
  rw [Connective.dropLeadingText]
  exact h.cut Connective.trims_dropLeading

end Spells

end FluentSql
