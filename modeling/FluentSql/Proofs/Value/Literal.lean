import FluentSql.Proofs.Identifier.Token
import FluentSql.Value.Literal

/-!
# Proofs/Value/Literal — a literal is read back from the text it stands in

    'it''s' AND …  ──scanLiteral?──▸  it's    and  ` AND …`
    X'00FF' AND …  ──scanLiteral?──▸  00, FF  and  ` AND …`

A text literal is written as an identifier is, with the single quote for the quote (`toList_text`), so
that the reader of identifiers reads it.  A blob literal holds two digits a byte, and a digit is no
quote.  So a reader takes just the literal, whatever stands behind it other than one more quote, and
gets the value back (`scanLiteral?_literal`).
-/

namespace FluentSql

open Text

namespace Value

/-! ## Reading a literal -/

/-- **Reads bytes up to a single quote**, two hexadecimal digits each, and the text behind the
quote. -/
def scanBytes? : List Char → Option (List UInt8 × List Char)
  | [] => none
  | [c] => if c = '\'' then some ([], []) else none
  | c :: d :: rest =>
    if c = '\'' then some ([], d :: rest)
    else match Hex.value? c, Hex.value? d with
      | some high, some low =>
        (scanBytes? rest).map fun r => (UInt8.ofNat (16 * high + low) :: r.1, r.2)
      | _, _ => none

/-- **Reads a literal**, a text in single quotes or a blob in quotes behind an `X`: its value, and the
text behind it. -/
def scanLiteral? : List Char → Option (Value × List Char)
  | 'X' :: '\'' :: rest | 'x' :: '\'' :: rest =>
    (scanBytes? rest).map fun r => (.blob r.1, r.2)
  | s => (Dialect.scanIdentifier? '\'' s).map fun r => (.text (String.ofList r.1), r.2)

/-! ## Texts -/

theorem doubleQuotes_eq (s : List Char) : doubleQuotes s = Dialect.doubled '\'' s := by
  induction s with
  | nil => rfl
  | cons c s ih =>
    rw [doubleQuotes, Dialect.doubled, ih]
    split
    · next hc => rw [hc]
    · rfl

/-- The literal of a text is an identifier in single quotes. -/
theorem toList_text (s : String) :
    (text s).literal.toList = '\'' :: (Dialect.doubled '\'' s.toList ++ ['\'']) := by
  rw [literal, String.toList_ofList, textLiteral, doubleQuotes_eq]

/-- Every character but the quote stands in the literal of a text as often as in the text. -/
theorem count_text {c : Char} (hc : c ≠ '\'') (s : String) :
    (text s).literal.toList.count c = s.toList.count c := by
  have hdoubled : ∀ chars : List Char, (Dialect.doubled '\'' chars).count c = chars.count c := by
    intro chars
    induction chars with
    | nil => rfl
    | cons d chars ih =>
      rw [Dialect.doubled]
      split
      · next hd => rw [hd, List.count_cons_of_ne hc.symm, List.count_cons_of_ne hc.symm, ih,
          List.count_cons_of_ne hc.symm]
      · rw [List.count_cons, List.count_cons, ih]
  rw [toList_text, List.count_cons_of_ne hc.symm, List.count_append, hdoubled,
    List.count_singleton, if_neg (by simpa using hc.symm), Nat.add_zero]

/-- What begins with a quote is read as a text. -/
theorem scanLiteral?_quote (rest : List Char) :
    scanLiteral? ('\'' :: rest) =
      (Dialect.scanIdentifier? '\'' ('\'' :: rest)).map fun r => (text (String.ofList r.1), r.2) :=
  rfl

/-- **A reader reads a text just where its literal stands**, with no further quote behind it. -/
theorem scanLiteral?_eq_text_iff {s : String} {chars rest : List Char} :
    scanLiteral? chars = some (text s, rest) ↔
      chars = (text s).literal.toList ++ rest ∧ rest.head? ≠ some '\'' := by
  rw [toList_text]
  constructor
  · intro h
    unfold scanLiteral? at h
    split at h
    · obtain ⟨r, -, hr⟩ := Option.map_eq_some_iff.mp h
      cases hr
    · obtain ⟨r, -, hr⟩ := Option.map_eq_some_iff.mp h
      cases hr
    · obtain ⟨⟨name, left⟩, hscan, hr⟩ := Option.map_eq_some_iff.mp h
      obtain ⟨hname, rfl⟩ := Prod.mk.inj hr
      obtain rfl : String.ofList name = s := Value.text.inj hname
      rw [String.toList_ofList]
      exact Dialect.eq_of_scanIdentifier? hscan
  · rintro ⟨rfl, hrest⟩
    rw [List.cons_append, scanLiteral?_quote, ← List.cons_append,
      Dialect.scanIdentifier?_append hrest, Option.map_some, String.ofList_toList]

/-! ## Blobs -/

theorem upperDigit_ne_quote : ∀ n < 16, Hex.upperDigit n ≠ '\'' := by decide

/-- A byte is read back from its two digits. -/
theorem scanBytes?_upper (b : UInt8) (s : List Char) :
    scanBytes? (Hex.upper b ++ s) = (scanBytes? s).map fun r => (b :: r.1, r.2) := by
  have hbyte := b.toNat_lt
  have hhigh : b.toNat / 16 < 16 := by omega
  have hlow : b.toNat % 16 < 16 := by omega
  have hvalue : UInt8.ofNat (16 * (b.toNat / 16) + b.toNat % 16) = b := by
    rw [Nat.div_add_mod]
    exact UInt8.ofNat_toNat
  have hdigits : Hex.upper b ++ s =
      Hex.upperDigit (b.toNat / 16) :: Hex.upperDigit (b.toNat % 16) :: s := rfl
  rw [hdigits, scanBytes?, if_neg (upperDigit_ne_quote _ hhigh), Hex.value?_upperDigit _ hhigh,
    Hex.value?_upperDigit _ hlow]
  simp only [hvalue]

/-- **Bytes are read back from their digits**, up to the quote behind them. -/
theorem scanBytes?_flatMap (bytes : List UInt8) (rest : List Char) :
    scanBytes? (bytes.flatMap Hex.upper ++ '\'' :: rest) = some (bytes, rest) := by
  induction bytes with
  | nil => cases rest <;> rfl
  | cons b bytes ih =>
    rw [List.flatMap_cons, List.append_assoc, scanBytes?_upper, ih]
    rfl

/-- **A blob is read back from its literal**, whatever stands behind it. -/
theorem scanLiteral?_blob (bytes : List UInt8) (rest : List Char) :
    scanLiteral? ((blob bytes).literal.toList ++ rest) = some (blob bytes, rest) := by
  have hchars : (blob bytes).literal.toList ++ rest =
      'X' :: '\'' :: (bytes.flatMap Hex.upper ++ '\'' :: rest) := by
    simp [literal, blobLiteral]
  rw [hchars, scanLiteral?, scanBytes?_flatMap]
  rfl

/-! ## Literals -/

/-- Whether the literal of a value stands between quotes. -/
def enclosed : Value → Bool
  | text _ | blob _ => true
  | _ => false

/-- **A literal in quotes is read back**, whatever stands behind it other than one more quote. -/
theorem scanLiteral?_append {v : Value} (hv : v.enclosed = true) {rest : List Char}
    (hrest : rest.head? ≠ some '\'') :
    scanLiteral? (v.literal.toList ++ rest) = some (v, rest) := by
  cases v with
  | text s => exact scanLiteral?_eq_text_iff.mpr ⟨rfl, hrest⟩
  | blob bytes => exact scanLiteral?_blob bytes rest
  | null | bool _ | int _ | float _ => cases hv

/-- **Texts and blobs are read back from the text they are written into**: a reader takes just the
literal and gets the value.  It reads a text from nothing else, and no two values are written alike. -/
theorem scanLiteral?_literal :
    (∀ (v : Value) (t : String), v.enclosed = true → t.toList.head? ≠ some '\'' →
      scanLiteral? (v.literal ++ t).toList = some (v, t.toList)) ∧
    (∀ (s : String) (chars rest : List Char), scanLiteral? chars = some (text s, rest) →
      chars = (text s).literal.toList ++ rest ∧ rest.head? ≠ some '\'') ∧
    ∀ v v' : Value, v.enclosed = true → v'.enclosed = true → v.literal = v'.literal → v = v' := by
  refine ⟨fun v t hv ht => ?_, fun s chars rest h => scanLiteral?_eq_text_iff.mp h,
    fun v v' hv hv' h => ?_⟩
  · rw [String.toList_append]
    exact scanLiteral?_append hv ht
  · have hend : ([] : List Char).head? ≠ some '\'' := nofun
    have hread := scanLiteral?_append hv hend
    rw [h, scanLiteral?_append hv' hend] at hread
    exact (Prod.mk.inj (Option.some.inj hread)).1.symm

/-- A text with quotes at its ends and side by side, and a blob with the code of a quote among its
bytes, are read back in front of more literals; and a text with one quote more is written in another
way. -/
theorem scanLiteral?_literal_quotes :
    scanLiteral? ("'''it''''s'''" ++ ", 'x'").toList = some (text "'it''s'", ", 'x'".toList) ∧
    scanLiteral? ("X'0027FF'" ++ "X''").toList = some (blob [0, 39, 255], "X''".toList) ∧
    (text "it's").literal ≠ (text "it''s").literal := by
  obtain ⟨hread, -, hinj⟩ := scanLiteral?_literal
  have htext : (text "'it''s'").literal = "'''it''''s'''" := by decide +kernel
  have hblob : (blob [0, 39, 255]).literal = "X'0027FF'" := by decide +kernel
  refine ⟨?_, ?_, fun h => ?_⟩
  · rw [← htext]
    exact hread (text "'it''s'") ", 'x'" rfl (by decide)
  · rw [← hblob]
    exact hread (blob [0, 39, 255]) "X''" rfl (by decide)
  · exact absurd (hinj _ _ rfl rfl h) (by decide)

end Value

end FluentSql
