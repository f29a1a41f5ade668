/-
The body that the client writes, read back.

# Contents

Reading goes in layers, and so does this: a character is written as some
bytes and read as parts that write its bytes again (`textPieces_quoted`,
`piecesUtf8_parts`), so a quoted text is one token with that text. The
whole body is a row of tokens that can be told before it is read
(`Reads`), as long as there is fuel for each of its bytes, and the
arguments are taken from this row (`carries_written`).
-/
import Warden.Admin.Json
import Warden.Proofs.Admin.Commands
import Warden.Proofs.Text.Utf8

namespace Warden.Admin.Command

open Text

-- ============================================================ single parts

/-- A byte that stands for itself between quotes. -/
def StandsForItself (b : UInt8) : Prop := b ≠ '"'.toUInt8 ∧ ¬ b < 0x20 ∧ b ≠ '\\'.toUInt8

instance : DecidablePred StandsForItself := fun _ => inferInstanceAs (Decidable (_ ∧ _ ∧ _))

variable {b c e h₁ h₂ h₃ h₄ : UInt8} {n : Nat} (s : Bytes)

/-- A byte that stands for itself is read as itself. -/
theorem textPieces_byte (hb : StandsForItself b) :
    textPieces (b :: s) = (textPieces s).map fun read => (.byte b :: read.1, read.2) := by
  rw [textPieces.eq_def]
  simp only [hb.1, hb.2.1, hb.2.2, if_false]
  cases textPieces s <;> rfl

/-- A short escape is read as the character that it stands for. -/
theorem textPieces_escape (he : e ≠ 'u'.toUInt8) (hc : shortEscape? e = some c) :
    textPieces ('\\'.toUInt8 :: e :: s)
      = (textPieces s).map fun read => (.byte c :: read.1, read.2) := by
  rw [textPieces.eq_def]
  simp only [he, hc, if_false]
  cases textPieces s <;> rfl

/-- A backslash, a letter u and four digits are read as one unit. -/
theorem textPieces_unit (hn : unitOf? h₁ h₂ h₃ h₄ = some n) :
    textPieces ('\\'.toUInt8 :: 'u'.toUInt8 :: h₁ :: h₂ :: h₃ :: h₄ :: s)
      = (textPieces s).map fun read => (.unit n :: read.1, read.2) := by
  rw [textPieces.eq_def]
  simp only [hn]
  cases textPieces s <;> rfl

/-- A row of bytes that stand for themselves is read as it is. -/
theorem textPieces_bytes :
    ∀ bytes : Bytes, (∀ b ∈ bytes, StandsForItself b) →
      textPieces (bytes ++ s)
        = (textPieces s).map fun read => (bytes.map .byte ++ read.1, read.2) := by
  intro bytes
  induction bytes with
  | nil => intro _; simp
  | cons b rest ih =>
      intro hall
      rw [List.cons_append, textPieces_byte _ (hall b List.mem_cons_self),
        ih fun b' hb' => hall b' (.tail b hb'), Option.map_map]
      rfl

-- ============================================================== characters

/-- The parts that a quoted character is read as. -/
def partsOf (c : Char) : List Piece :=
  if c.toNat < 0x20 ∧ c ∉ ['\x08', '\t', '\n', '\x0c', '\r'] then [.unit c.toNat]
  else (String.utf8EncodeChar c).map .byte

/-- The bytes of a quoted text without its quotes. -/
def quotedBytes (chars : List Char) : Bytes :=
  (chars.flatMap Json.quotedChar).flatMap String.utf8EncodeChar

/-- Characters are quoted one after the other. -/
theorem quotedBytes_cons (c : Char) (rest : List Char) :
    quotedBytes (c :: rest) = quotedBytes [c] ++ quotedBytes rest := by
  simp [quotedBytes]

/-- Beyond controls, quotes and backslashes a character stands for itself. -/
theorem standsForItself_of_mem {c : Char} (hcontrol : ¬ c.toNat < 0x20) (hquote : c ≠ '"')
    (hback : c ≠ '\\') : ∀ b ∈ String.utf8EncodeChar c, StandsForItself b := by
  intro b hb
  by_cases hc : c.toNat < 128
  case pos =>
    rw [utf8EncodeChar_of_ascii hc, List.mem_singleton] at hb
    have hascii : ¬ c.toNat < 0x20 → c ≠ '"' → c ≠ '\\' →
        StandsForItself (UInt8.ofNat c.toNat) := of_ascii hc (by decide)
    rw [hb]
    exact hascii hcontrol hquote hback
  case neg =>
    have hhigh : 128 ≤ b.toNat := high_of_mem_utf8EncodeChar (by omega) b hb
    refine ⟨?_, ?_, ?_⟩
    · rintro rfl
      exact absurd hhigh (by decide)
    · intro hlt
      have hsmall : b.toNat < 0x20 := UInt8.lt_iff_toNat_lt.mp hlt
      omega
    · rintro rfl
      exact absurd hhigh (by decide)

/-- What one character is quoted as is read as its parts. -/
theorem textPieces_quotedBytes_singleton (c : Char) (s : Bytes) :
    textPieces (quotedBytes [c] ++ s)
      = (textPieces s).map fun read => (partsOf c ++ read.1, read.2) := by
  have hsingle : quotedBytes [c] = (Json.quotedChar c).flatMap String.utf8EncodeChar := by
    simp [quotedBytes]
  rw [hsingle]
  unfold Json.quotedChar
  split
  case h_8 hquote hback h8 htab hnewline hfeed hreturn =>
    split
    case isTrue hcontrol =>
      have hparts : partsOf c = [.unit c.toNat] :=
        if_pos ⟨hcontrol, by
          simp only [List.mem_cons, List.not_mem_nil, or_false, not_or]
          exact ⟨h8, htab, hnewline, hfeed, hreturn⟩⟩
      have hdigits : ∀ n < 0x20, (['\\', 'u', '0', '0'] ++ hexByte (UInt8.ofNat n)).flatMap
          String.utf8EncodeChar = ['\\'.toUInt8, 'u'.toUInt8, '0'.toUInt8, '0'.toUInt8,
            (hexDigit (n / 16)).toUInt8, (hexDigit (n % 16)).toUInt8]
        ∧ unitOf? '0'.toUInt8 '0'.toUInt8 (hexDigit (n / 16)).toUInt8 (hexDigit (n % 16)).toUInt8
          = some n := by decide
      obtain ⟨hbytes, hunit⟩ := hdigits c.toNat hcontrol
      rw [hbytes, hparts]
      exact textPieces_unit s hunit
    case isFalse hcontrol =>
      have hparts : partsOf c = (String.utf8EncodeChar c).map .byte := if_neg fun h => hcontrol h.1
      rw [List.flatMap_singleton, hparts]
      exact textPieces_bytes s _ (standsForItself_of_mem hcontrol hquote hback)
  all_goals exact textPieces_escape s (by decide) (by decide)

-- =================================================================== texts

/-- A quoted text is read up to its closing quotation mark. -/
theorem textPieces_quoted (rest : Bytes) :
    ∀ chars : List Char, textPieces (quotedBytes chars ++ '"'.toUInt8 :: rest)
      = some (chars.flatMap partsOf, rest) := by
  intro chars
  induction chars with
  | nil =>
      rw [textPieces.eq_def]
      rfl
  | cons c others ih =>
      rw [quotedBytes_cons, List.append_assoc, textPieces_quotedBytes_singleton, ih]
      rfl

/-- Bytes that were read as such are the bytes of the text. -/
theorem piecesUtf8_bytes (ps : List Piece) :
    ∀ bytes : Bytes, piecesUtf8 (bytes.map .byte ++ ps) = (piecesUtf8 ps).map (bytes ++ ·) := by
  intro bytes
  induction bytes with
  | nil => simp
  | cons b rest ih =>
      show (piecesUtf8 (rest.map .byte ++ ps)).map (b :: ·) = _
      rw [ih, Option.map_map]
      rfl

/-- The parts of a character write its bytes. -/
theorem piecesUtf8_partsOf (c : Char) (ps : List Piece) :
    piecesUtf8 (partsOf c ++ ps) = (piecesUtf8 ps).map (String.utf8EncodeChar c ++ ·) := by
  unfold partsOf
  split
  case isFalse => exact piecesUtf8_bytes ps _
  case isTrue hunit =>
    have hleading : isLeading c.toNat = false := by simp [isLeading]; omega
    have htrailing : isTrailing c.toNat = false := by simp [isTrailing]; omega
    rw [List.singleton_append, piecesUtf8.eq_def]
    simp only [hleading, htrailing, Char.ofNat_toNat]
    rfl

/-- The parts of the characters of a text are read as the text. -/
theorem textOf?_parts (text : String) : textOf? (text.toList.flatMap partsOf) = some text := by
  have hbytes : ∀ chars : List Char,
      piecesUtf8 (chars.flatMap partsOf) = some (chars.flatMap String.utf8EncodeChar) := by
    intro chars
    induction chars with
    | nil => rfl
    | cons c rest ih =>
        rw [List.flatMap_cons, piecesUtf8_partsOf, ih]
        rfl
  unfold textOf?
  rw [hbytes]
  exact ofUtf8?_utf8 text

/-- A quoted text is its quoted bytes between two quotation marks. -/
theorem utf8_quoted (text : String) :
    utf8 (Json.quoted text)
      = '"'.toUInt8 :: (quotedBytes text.toList ++ ['"'.toUInt8]) := by
  simp only [utf8, Json.quoted, String.toList_ofList, List.flatMap_cons, List.flatMap_append,
    List.flatMap_nil, List.append_nil]
  rfl

-- ================================================================== tokens

/-- The tokens of some bytes, with fuel for each of them. -/
def Reads (body : Bytes) (ts : List Token) : Prop :=
  ∀ fuel, body.length < fuel → tokensWithin fuel body = some ts

variable {body : Bytes} {ts : List Token}

theorem reads_nil : Reads [] [] := by
  intro fuel hfuel
  cases fuel with
  | zero => cases hfuel
  | succ fuel => rfl

/-- A mark is no blank. -/
theorem isBlankByte_of_mark? {t : Token} (hmark : mark? b = some t) : isBlankByte b = false := by
  refine Bool.eq_false_iff.mpr fun hblank => ?_
  simp only [isBlankByte, Bool.or_eq_true, beq_iff_eq] at hblank
  rcases hblank with ((rfl | rfl) | rfl) | rfl <;> cases hmark

/-- A mark is read as its token. -/
theorem reads_mark {t : Token} (hmark : mark? b = some t) (h : Reads body ts) :
    Reads (b :: body) (t :: ts) := by
  intro fuel hfuel
  cases fuel with
  | zero => cases hfuel
  | succ fuel =>
      have hrest : tokensWithin fuel body = some ts := h fuel (Nat.lt_of_succ_lt_succ hfuel)
      have hstart : (b :: body).dropWhile isBlankByte = b :: body :=
        List.dropWhile_cons_of_neg (by rw [isBlankByte_of_mark? hmark]; decide)
      rw [tokensWithin, hstart]
      simp only [hmark, hrest]
      rfl

/-- A quoted text is read as one token of this text. -/
theorem reads_text (text : String) (h : Reads body ts) :
    Reads (utf8 (Json.quoted text) ++ body) (.text (some text) :: ts) := by
  have hwritten : utf8 (Json.quoted text) ++ body
      = '"'.toUInt8 :: (quotedBytes text.toList ++ '"'.toUInt8 :: body) := by
    rw [utf8_quoted]
    simp
  rw [hwritten]
  intro fuel hfuel
  cases fuel with
  | zero => cases hfuel
  | succ fuel =>
      have hlength : body.length < fuel := by
        simp only [List.length_cons, List.length_append] at hfuel
        omega
      have hstart (r : Bytes) : ('"'.toUInt8 :: r).dropWhile isBlankByte = '"'.toUInt8 :: r :=
        List.dropWhile_cons_of_neg (by decide)
      have hmark : mark? '"'.toUInt8 = none := by decide
      rw [tokensWithin, hstart]
      simp only [hmark, textPieces_quoted, if_true]
      show ((tokensWithin fuel body).bind fun ts =>
        some (Token.text (textOf? (text.toList.flatMap partsOf)) :: ts)) = _
      rw [h fuel hlength, textOf?_parts]
      rfl

-- ================================================================ the body

/-- The tokens of the items of a list, up to its bracket. -/
def itemTokens : List String → List Token
  | [] => [.closeList]
  | [a] => [.text (some a), .closeList]
  | a :: rest => .text (some a) :: .comma :: itemTokens rest

/-- Quoted texts with commas in between, and the bracket that closes the
list, are read as the tokens of the list. -/
theorem reads_items (h : Reads body ts) :
    ∀ args : List String, Reads
      (utf8 (String.intercalate "," (args.map Json.quoted)) ++ ']'.toUInt8 :: body)
      (itemTokens args ++ ts) := by
  have hclose : Reads (']'.toUInt8 :: body) (.closeList :: ts) := reads_mark rfl h
  intro args
  induction args with
  | nil => exact hclose
  | cons a rest ih =>
      cases rest with
      | nil => exact reads_text a hclose
      | cons next others =>
          have hcomma := (reads_mark rfl ih : Reads (','.toUInt8 :: _) _)
          rw [List.map_cons, List.map_cons, String.intercalate_cons_cons, utf8_append, utf8_append,
            List.append_assoc, List.append_assoc]
          exact reads_text a hcomma

/-- The tokens of a list that is not empty are those of its texts. -/
theorem textItems_itemTokens (rest : List Token) :
    ∀ (args : List String) (a : String),
      textItems (itemTokens (a :: args) ++ rest) = some (a :: args, rest) := by
  intro args
  induction args with
  | nil => intro a; rfl
  | cons next others ih =>
      intro a
      show (textItems (itemTokens (next :: others) ++ rest)).bind
        (fun read => some (a :: read.1, read.2)) = _
      rw [ih next]
      rfl

/-- The tokens of any list are read as its texts. -/
theorem textList_itemTokens (rest : List Token) (args : List String) :
    textList (.openList :: (itemTokens args ++ rest)) = some (args, rest) := by
  cases args with
  | nil => rfl
  | cons a others =>
      have hitems := textItems_itemTokens rest others a
      cases others with
      | nil => exact hitems
      | cons next others => exact hitems

/-- The body that carries some arguments. -/
def written (args : List String) : Bytes :=
  utf8 (Json.object [("args", .list (args.map .text))]).compact

/-- What is written of some arguments, byte by byte. -/
theorem written_eq (args : List String) :
    written args
      = '\x7b'.toUInt8 :: (utf8 (Json.quoted "args") ++ ':'.toUInt8 :: '['.toUInt8
        :: (utf8 (String.intercalate "," (args.map Json.quoted))
          ++ ']'.toUInt8 :: ['\x7d'.toUInt8])) := by
  have hitems : Json.compactItems (args.map .text) = args.map Json.quoted := by
    induction args with
    | nil => rfl
    | cons a rest ih => rw [List.map_cons, Json.compactItems, ih]; rfl
  simp only [written, Json.compact, Json.compactMembers, String.intercalate_singleton, hitems,
    utf8_append, List.append_assoc]
  rfl

/-- What the client writes for some arguments is read as these arguments. -/
theorem carries_written (args : List String) : Carries (written args) args := by
  have hreads : Reads (written args)
      (.openObject :: .text (some "args") :: .colon :: .openList
        :: (itemTokens args ++ [.closeObject])) := by
    rw [written_eq]
    have hend : Reads ['\x7d'.toUInt8] [.closeObject] := reads_mark rfl reads_nil
    have hlist := (reads_mark rfl (reads_items hend args) : Reads ('['.toUInt8 :: _) _)
    exact reads_mark rfl (reads_text "args" (reads_mark rfl hlist))
  have htokens := hreads _ (Nat.lt_succ_self _)
  have harguments : arguments (.openObject :: .text (some "args") :: .colon :: .openList
      :: (itemTokens args ++ [.closeObject])) = some (args, []) := by
    show members (_ + 1) none _ = _
    rw [members]
    simp only [textList_itemTokens]
    rfl
  refine .inr ⟨by rw [written_eq]; exact List.cons_ne_nil _ _, ?_⟩
  unfold argsOf?
  rw [tokens, htokens]
  show ((arguments _).bind _) = _
  rw [harguments]
  rfl

end Warden.Admin.Command
