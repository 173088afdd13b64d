import FluentSql.InsertId
import FluentSql.Proofs.Decimal
import FluentSql.Proofs.Trim

/-!
# Proofs/InsertId — a generated key survives its text

    value   " +007 "   "a-7"   X'07'    18446744073709551615
    key     7          a-7     X'07'    18446744073709551615
    read    integer    text    text     text

A key is read from its own text as the key that it is.  An integer is written in base ten and read back
over the whole range of words; a text was kept because no integer could be read from it, and cannot be
one the second time; the literal of a blob begins with a letter.  An unsigned key beyond the signed
words stays the text of its digits, so that it is never another number (`InsertId.survives_text`).
-/

namespace FluentSql

/-- Trimming leaves the text of an integer as it is. -/
theorem Text.stripBlanks_signedDigits (n : Int) : stripBlanks (signedDigits n) = signedDigits n :=
  (tight_of_forall fun _ => isBlank_of_mem_signedDigits).stripBlanks_eq

/-! ## Unsigned integers -/

theorem Value.minValue_le_toNat (k : UInt64) : Int64.minValue.toInt ≤ (k.toNat : Int) :=
  Int.le_trans (by decide) (Int.natCast_nonneg _)

/-- **An unsigned integer is bound as it is** if a signed word holds it, else as its decimal form. -/
theorem Value.ofUInt64_eq (k : UInt64) :
    ofUInt64 k =
      if (k.toNat : Int) ≤ Int64.maxValue.toInt then int (Int64.ofNat k.toNat)
      else text (Text.ofNat k.toNat) := by
  rw [ofUInt64, Text.toInt64?]
  by_cases h : (k.toNat : Int) ≤ Int64.maxValue.toInt
  · rw [if_pos ⟨minValue_le_toNat k, h⟩, if_pos h]
    rfl
  · rw [if_neg fun hfits => h hfits.2, if_neg h]

namespace InsertId

/-- **The number a key stands for**, if it stands for one. -/
def number? : InsertId → Option Int
  | int n => some n.toInt
  | text s => Text.readInt s.toList

/-! ## Keys read from their text -/

/-- A text is a key by the integer that is read from it, or as it is. -/
theorem ofValue_text_of_read {s : String} {n : Int64}
    (h : Text.readInt64 (Text.stripBlanks s.toList) = some n) : ofValue (.text s) = int n := by
  simp only [ofValue, Value.toInt64?, h]

theorem ofValue_text_of_unread {s : String}
    (h : Text.readInt64 (Text.stripBlanks s.toList) = none) : ofValue (.text s) = text s := by
  simp only [ofValue, Value.toInt64?, h, Value.display]

/-- **An integer key is read from its text.** -/
theorem ofValue_display_int (n : Int64) : ofValue (.text (int n).display) = int n := by
  refine ofValue_text_of_read ?_
  rw [display, Text.ofInt, String.toList_ofList, Text.stripBlanks_signedDigits, Text.readInt64_toInt]

/-- **A text with a letter is a key as it is.** -/
theorem ofValue_text_of_mem {s : String} {c : Char} (hc : c ∈ s.toList)
    (hdigit : Text.digitValue? c = none) (hsign : c ≠ '-' ∧ c ≠ '+')
    (hblank : Text.isBlank c = false) : ofValue (.text s) = text s := by
  refine ofValue_text_of_unread ?_
  rw [Text.readInt64,
    Text.readInt_eq_none (Text.mem_stripBlanks hc hblank) hdigit hsign.1 hsign.2, Option.bind_none]

/-- **A key is read from its text**, whatever value but a float reported it. -/
theorem ofValue_display {v : Value} (hv : ∀ x, v ≠ .float x) :
    ofValue (.text (ofValue v).display) = ofValue v := by
  cases v with
  | null => exact ofValue_display_int 0
  | bool flag => exact ofValue_display_int (if flag then 1 else 0)
  | int n => exact ofValue_display_int n
  | float x => exact absurd rfl (hv x)
  | text s =>
    cases hread : Text.readInt64 (Text.stripBlanks s.toList) with
    | some n => rw [ofValue_text_of_read hread, ofValue_display_int]
    | none =>
      rw [ofValue_text_of_unread hread]
      exact ofValue_text_of_unread hread
  | blob bytes =>
    have hletter : 'X' ∈ ((Value.blob bytes).literal).toList := by
      rw [Value.literal, String.toList_ofList]
      exact List.mem_cons_self
    exact ofValue_text_of_mem hletter (by decide) (by decide) (by decide)

/-! ## Unsigned keys -/

/-- **An unsigned key** is the integer itself, or the text of its digits. -/
theorem ofValue_ofUInt64 (k : UInt64) :
    ofValue (.ofUInt64 k) =
      if (k.toNat : Int) ≤ Int64.maxValue.toInt then int (Int64.ofNat k.toNat)
      else text (Text.ofNat k.toNat) := by
  rw [Value.ofUInt64_eq]
  split
  · rfl
  · next h =>
    have htrim : Text.stripBlanks (Text.digits k.toNat) = Text.digits k.toNat :=
      Text.stripBlanks_signedDigits k.toNat
    refine ofValue_text_of_unread ?_
    rw [Text.ofNat, String.toList_ofList, htrim, Text.readInt64, Text.readInt_digits,
      Option.bind_some, Text.toInt64?, if_neg fun hfits => h hfits.2]

/-- **An unsigned key is never another number.** -/
theorem number?_ofUInt64 (k : UInt64) : (ofValue (.ofUInt64 k)).number? = some (k.toNat : Int) := by
  rw [ofValue_ofUInt64]
  split
  · next h =>
    have hword : Text.toInt64? (k.toNat : Int) = some (Int64.ofNat k.toNat) :=
      if_pos ⟨Value.minValue_le_toNat k, h⟩
    exact congrArg some (Text.toInt64?_eq_some_iff.mp hword)
  · rw [number?, Text.ofNat, String.toList_ofList, Text.readInt_digits]

/-- **A key survives its text.**  Whatever value but a float reported the key, the text of the key reads
as the same key; and an unsigned integer is the integer key when a signed word holds it, the text of
its digits when none does, in either case the key of its own number. -/
theorem survives_text (v : Value) (hv : ∀ x, v ≠ .float x) :
    ofValue (.text (ofValue v).display) = ofValue v ∧
      ∀ k : UInt64,
        (ofValue (.ofUInt64 k)).number? = some (k.toNat : Int) ∧
          ofValue (.ofUInt64 k) =
            if (k.toNat : Int) ≤ Int64.maxValue.toInt then int (Int64.ofNat k.toNat)
            else text (Text.ofNat k.toNat) :=
  ⟨ofValue_display hv, fun k => ⟨number?_ofUInt64 k, ofValue_ofUInt64 k⟩⟩

/-- The least word between blanks, behind zeros: its key is written shorter, and is the same key. -/
theorem survives_text_padded :
    let v : Value := .text "\u2003-009223372036854775808\t"
    (∀ x, v ≠ .float x) ∧
      ofValue v = int Int64.minValue ∧
      (ofValue v).display = "-9223372036854775808" ∧
      ofValue (.text "-9223372036854775808") = int Int64.minValue ∧
      ofValue (.ofUInt64 9223372036854775807) = int Int64.maxValue ∧
      ofValue (.ofUInt64 9223372036854775808) = text "9223372036854775808" := by
  intro v
  have hv : ∀ x, v ≠ .float x := by nofun
  have hread : ofValue v = int Int64.minValue := by decide +kernel
  have htext : (ofValue v).display = "-9223372036854775808" := by decide +kernel
  obtain ⟨hkey, hunsigned⟩ := survives_text v hv
  refine ⟨hv, hread, htext, ?_, ?_, ?_⟩
  · rw [← htext, hkey, hread]
  · rw [(hunsigned _).2]
    decide +kernel
  · rw [(hunsigned _).2]
    decide +kernel

end InsertId

end FluentSql
