/-
Percent encoding: bytes in a text of few characters.

# Contents

`percentDecode` gives the bytes that a text writes: a percent sign with
two hexadecimal digits is a byte, and every other character stands for
its UTF-8 bytes, a percent sign without two digits too. `percentEncode`
writes bytes, those that are not plain by their digits.
-/
import Warden.Text.Hex
import Warden.Text.Utf8

namespace Warden.Text

/-- The bytes that a text writes. -/
def percentDecode : List Char → List UInt8
  | [] => []
  | c :: r =>
    if c = '%' then
      match r with
      | high :: low :: rest =>
        match byteOfHex? high low with
        | some b => b :: percentDecode rest
        | none => String.utf8EncodeChar c ++ percentDecode (high :: low :: rest)
      | r => String.utf8EncodeChar c ++ percentDecode r
    else String.utf8EncodeChar c ++ percentDecode r

/-- The text whose UTF-8 bytes a text writes, if they are. -/
def percentText? (s : List Char) : Option String :=
  ofUtf8? (percentDecode s)

/-- A digit as it is written after a percent sign. -/
def upperHexDigit (n : Nat) : Char := if n < 10 then Char.ofNat (48 + n) else Char.ofNat (55 + n)

/-- Writes bytes; those that `plain` admits as the ASCII character they are. -/
def percentEncode (plain : UInt8 → Bool) (bytes : List UInt8) : List Char :=
  bytes.flatMap fun b =>
    if plain b then [Char.ofNat b.toNat]
    else ['%', upperHexDigit (b.toNat / 16), upperHexDigit (b.toNat % 16)]

end Warden.Text
