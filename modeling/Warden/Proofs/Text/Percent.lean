/-
Reading back what percent encoding wrote.

# Contents

An encoder may let bytes stand for themselves as long as they are ASCII
and neither the percent sign nor the slash (`KeepsParts`); which ones it
does is its own choice. Whatever the choice, decoding gives the bytes
back (`percentDecode_percentEncode`), so a text that was encoded as UTF-8
is read as that text (`percentText?_percentEncode`), and no slash is
written (`slash_notMem_percentEncode`): the encoding is one part of a
path.
-/
import Warden.Proofs.Text.Utf8
import Warden.Text.Percent

namespace Warden.Text

/-- The bytes that stand for themselves are ASCII, and neither the percent
sign nor the slash is one of them. -/
def KeepsParts (plain : UInt8 → Bool) : Prop :=
  ∀ b, plain b = true → b.toNat < 128 ∧ b.toNat ≠ '%'.toNat ∧ b.toNat ≠ '/'.toNat

-- ================================================================ digits

/-- A digit that is written is read as its value. -/
theorem hexValue?_upperHexDigit : ∀ n < 16, hexValue? (upperHexDigit n) = some n := by decide

theorem upperHexDigit_ne_slash : ∀ n < 16, upperHexDigit n ≠ '/' := by decide

/-- The two digits of a byte are read as the byte. -/
theorem byteOfHex?_upperHexDigit (b : UInt8) :
    byteOfHex? (upperHexDigit (b.toNat / 16)) (upperHexDigit (b.toNat % 16)) = some b := by
  have hb : b.toNat < 256 := b.toNat_lt
  have hhigh := hexValue?_upperHexDigit (b.toNat / 16) (by omega)
  have hlow := hexValue?_upperHexDigit (b.toNat % 16) (by omega)
  have hsum : 16 * (b.toNat / 16) + b.toNat % 16 = b.toNat := by omega
  rw [byteOfHex?, hhigh, hlow]
  show some (UInt8.ofNat (16 * (b.toNat / 16) + b.toNat % 16)) = some b
  rw [hsum, UInt8.ofNat_toNat]

/-- What is read as a byte are two digits. -/
theorem isSome_of_byteOfHex? {high low : Char} {b : UInt8} (h : byteOfHex? high low = some b) :
    (hexValue? high).isSome = true ∧ (hexValue? low).isSome = true := by
  unfold byteOfHex? at h
  cases hhigh : hexValue? high with
  | none => rw [hhigh] at h; cases h
  | some n =>
      cases hlow : hexValue? low with
      | none => rw [hhigh, hlow] at h; cases h
      | some m => exact ⟨rfl, rfl⟩

-- ============================================================== one byte

/-- But for the percent sign, a character is decoded as its bytes. -/
theorem percentDecode_cons_of_ne {c : Char} (hc : c ≠ '%') (s : List Char) :
    percentDecode (c :: s) = String.utf8EncodeChar c ++ percentDecode s := by
  rw [percentDecode.eq_def]
  simp [hc]

/-- A percent sign without two digits stands for itself. -/
theorem percentDecode_percent {s : List Char}
    (hs : ∀ high low rest, s = high :: low :: rest → byteOfHex? high low = none) :
    percentDecode ('%' :: s) = String.utf8EncodeChar '%' ++ percentDecode s := by
  rw [percentDecode.eq_def]
  simp only [if_true]
  split
  case h_1 high low rest => rw [hs high low rest rfl]
  case h_2 => rfl

variable {plain : UInt8 → Bool}

/-- Bytes are encoded one after the other. -/
theorem percentEncode_cons (b : UInt8) (bytes : List UInt8) :
    percentEncode plain (b :: bytes) = percentEncode plain [b] ++ percentEncode plain bytes := by
  simp [percentEncode]

/-- An encoded byte is decoded as the byte. -/
theorem percentDecode_encoded_byte (hplain : KeepsParts plain) (b : UInt8) (s : List Char) :
    percentDecode (percentEncode plain [b] ++ s) = b :: percentDecode s := by
  cases hb : plain b with
  | true =>
      obtain ⟨hascii, hpercent, -⟩ := hplain b hb
      obtain ⟨hnat, hbytes⟩ := ascii_char b.toNat hascii
      have hne : Char.ofNat b.toNat ≠ '%' := fun h => hpercent (by rw [← h, hnat])
      have hwritten : percentEncode plain [b] ++ s = Char.ofNat b.toNat :: s := by
        simp [percentEncode, hb]
      rw [hwritten, percentDecode_cons_of_ne hne, hbytes]
      simp
  | false =>
      have hwritten : percentEncode plain [b] ++ s
          = '%' :: upperHexDigit (b.toNat / 16) :: upperHexDigit (b.toNat % 16) :: s := by
        simp [percentEncode, hb]
      rw [hwritten, percentDecode.eq_def]
      simp [byteOfHex?_upperHexDigit]

/-- An encoded byte holds no slash. -/
theorem slash_notMem_encoded_byte (hplain : KeepsParts plain) (b : UInt8) :
    '/' ∉ percentEncode plain [b] := by
  have hb : b.toNat < 256 := b.toNat_lt
  cases hplainb : plain b with
  | true =>
      obtain ⟨hascii, -, hslash⟩ := hplain b hplainb
      have hne : '/' ≠ Char.ofNat b.toNat := fun h => hslash (by rw [h, (ascii_char _ hascii).1])
      simp [percentEncode, hplainb, hne]
  | false =>
      have hhigh := upperHexDigit_ne_slash (b.toNat / 16) (by omega)
      have hlow := upperHexDigit_ne_slash (b.toNat % 16) (by omega)
      simp [percentEncode, hplainb, hhigh.symm, hlow.symm]

-- ============================================================= all bytes

/-- Which bytes stand for themselves matters for those that are there. -/
theorem percentEncode_congr {plain' : UInt8 → Bool} {bytes : List UInt8}
    (h : ∀ b ∈ bytes, plain b = plain' b) :
    percentEncode plain bytes = percentEncode plain' bytes := by
  induction bytes with
  | nil => rfl
  | cons b rest ih =>
      have hb := h b List.mem_cons_self
      rw [percentEncode_cons, percentEncode_cons b rest, ih fun b' hb' => h b' (.tail b hb')]
      simp [percentEncode, hb]

/-- Encoded bytes are decoded as the bytes, whatever follows them. -/
theorem percentDecode_percentEncode_append (hplain : KeepsParts plain) (bytes : List UInt8)
    (s : List Char) :
    percentDecode (percentEncode plain bytes ++ s) = bytes ++ percentDecode s := by
  induction bytes with
  | nil => rfl
  | cons b rest ih =>
      rw [percentEncode_cons, List.append_assoc, percentDecode_encoded_byte hplain, ih,
        List.cons_append]

theorem percentDecode_percentEncode (hplain : KeepsParts plain) (bytes : List UInt8) :
    percentDecode (percentEncode plain bytes) = bytes := by
  have hread := percentDecode_percentEncode_append hplain bytes []
  rwa [List.append_nil, percentDecode, List.append_nil] at hread

/-- An encoded text is read as the text. -/
theorem percentText?_percentEncode (hplain : KeepsParts plain) (s : String) :
    percentText? (percentEncode plain (utf8 s)) = some s := by
  rw [percentText?, percentDecode_percentEncode hplain, ofUtf8?_utf8]

/-- Encoded bytes hold no slash, so they stay in one part of a path. -/
theorem slash_notMem_percentEncode (hplain : KeepsParts plain) (bytes : List UInt8) :
    '/' ∉ percentEncode plain bytes := by
  induction bytes with
  | nil => exact List.not_mem_nil
  | cons b rest ih =>
      rw [percentEncode_cons, List.mem_append]
      exact not_or.mpr ⟨slash_notMem_encoded_byte hplain b, ih⟩

end Warden.Text
