/-
The body of a refresh command: the arguments that it carries.

# Contents

A body is JSON: an object whose member `args` is a list of texts, or a
list that holds such a list alone. Without `args` there are no
arguments. Everything else in it is only skimmed: it must be JSON, but
its texts may write what is no Unicode, and it may nest without limit.

A body is cut into tokens first. A text becomes a token with the text
that it writes, or with none if it writes no Unicode.
-/
import Warden.Text.Hex
import Warden.Text.Utf8

namespace Warden.Admin.Command

open Text

/-- A token of JSON. -/
inductive Token where
  | openList
  | closeList
  | openObject
  | closeObject
  | comma
  | colon
  /-- A text, if it is one. -/
  | text (value : Option String)
  /-- A number, a truth value or null. -/
  | scalar
deriving DecidableEq, Repr

abbrev Bytes := List UInt8

-- =================================================================== texts

/-- One part of a text: a byte of UTF-8, or a UTF-16 unit by its number. -/
inductive Piece where
  | byte (b : UInt8)
  | unit (n : Nat)
deriving DecidableEq, Repr

/-- The value of a hexadecimal digit. -/
def hexOf? (b : UInt8) : Option Nat := hexValue? (Char.ofNat b.toNat)

/-- The number that four hexadecimal digits write. -/
def unitOf? (a b c d : UInt8) : Option Nat := do
  let ds ← [a, b, c, d].mapM hexOf?
  return ds.foldl (fun n x => n * 16 + x) 0

/-- The byte that stands for itself or has a short name after a backslash. -/
def shortEscape? (b : UInt8) : Option UInt8 :=
  if b = '"'.toUInt8 ∨ b = '\\'.toUInt8 ∨ b = '/'.toUInt8 then some b
  else if b = 'b'.toUInt8 then some 8
  else if b = 'f'.toUInt8 then some 12
  else if b = 'n'.toUInt8 then some 10
  else if b = 'r'.toUInt8 then some 13
  else if b = 't'.toUInt8 then some 9
  else none

/-- The parts of a text up to its closing quote, and what follows. -/
def textPieces : Bytes → Option (List Piece × Bytes)
  | [] => none
  | b :: r =>
    if b = '"'.toUInt8 then some ([], r)
    else if b < 0x20 then none
    else if b = '\\'.toUInt8 then
      match r with
      | [] => none
      | e :: r =>
        if e = 'u'.toUInt8 then
          match r with
          | h1 :: h2 :: h3 :: h4 :: r => do
            let n ← unitOf? h1 h2 h3 h4
            let (ps, rest) ← textPieces r
            return (.unit n :: ps, rest)
          | _ => none
        else do
          let c ← shortEscape? e
          let (ps, rest) ← textPieces r
          return (.byte c :: ps, rest)
    else do
      let (ps, rest) ← textPieces r
      return (.byte b :: ps, rest)

/-- Whether a unit is the first of a pair. -/
def isLeading (n : Nat) : Bool := 0xD800 ≤ n && n < 0xDC00

/-- Whether a unit is the second of a pair. -/
def isTrailing (n : Nat) : Bool := 0xDC00 ≤ n && n < 0xE000

/-- The UTF-8 bytes of a text's parts, unless a unit lacks its partner. -/
def piecesUtf8 : List Piece → Option Bytes
  | [] => some []
  | .byte b :: r => (piecesUtf8 r).map (b :: ·)
  | .unit n :: r =>
    if isLeading n then
      match r with
      | .unit m :: r =>
        if isTrailing m then
          (piecesUtf8 r).map
            (String.utf8EncodeChar (Char.ofNat (0x10000 + (n - 0xD800) * 0x400 + (m - 0xDC00))) ++ ·)
        else none
      | _ => none
    else if isTrailing n then none
    else (piecesUtf8 r).map (String.utf8EncodeChar (Char.ofNat n) ++ ·)

/-- The text that parts write. -/
def textOf? (ps : List Piece) : Option String := do
  let bytes ← piecesUtf8 ps
  ofUtf8? bytes

-- ================================================================= scalars

def isDigitByte (b : UInt8) : Bool := '0'.toUInt8 ≤ b && b ≤ '9'.toUInt8

/-- Drops one digit or more. -/
def someDigits (s : Bytes) : Option Bytes :=
  match s with
  | [] => none
  | b :: r => if isDigitByte b then some (r.dropWhile isDigitByte) else none

/-- Drops the whole part of a number, which starts with zero only if it
is zero. -/
def wholePart (s : Bytes) : Option Bytes :=
  match s with
  | [] => none
  | b :: r =>
    if b = '0'.toUInt8 then
      match r with
      | d :: _ => if isDigitByte d then none else some r
      | [] => some []
    else someDigits s

/-- Drops a point with digits, if there is a point. -/
def fraction (s : Bytes) : Option Bytes :=
  match s with
  | b :: r => if b = '.'.toUInt8 then someDigits r else some s
  | [] => some []

/-- Drops an exponent with digits, if there is one. -/
def exponent (s : Bytes) : Option Bytes :=
  match s with
  | b :: r =>
    if b = 'e'.toUInt8 ∨ b = 'E'.toUInt8 then
      match r with
      | sign :: digits =>
        if sign = '+'.toUInt8 ∨ sign = '-'.toUInt8 then someDigits digits else someDigits r
      | [] => none
    else some s
  | [] => some []

/-- Drops a number. -/
def number (s : Bytes) : Option Bytes := do
  let unsigned := match s with
    | b :: r => if b = '-'.toUInt8 then r else s
    | [] => s
  exponent (← fraction (← wholePart unsigned))

/-- Drops a given word. -/
def word (w : String) (s : Bytes) : Option Bytes :=
  let bytes := w.toList.map Char.toUInt8
  if bytes.isPrefixOf s then some (s.drop bytes.length) else none

/-- Drops a number, a truth value or null. -/
def scalar (s : Bytes) : Option Bytes :=
  match s with
  | [] => none
  | b :: _ =>
    if b = 'n'.toUInt8 then word "null" s
    else if b = 't'.toUInt8 then word "true" s
    else if b = 'f'.toUInt8 then word "false" s
    else number s

-- ================================================================== tokens

/-- The blanks of JSON. -/
def isBlankByte (b : UInt8) : Bool := b == 0x20 || b == 0x09 || b == 0x0A || b == 0x0D

/-- The bracket or separator that a byte is. -/
def mark? (b : UInt8) : Option Token :=
  if b = '['.toUInt8 then some .openList
  else if b = ']'.toUInt8 then some .closeList
  else if b = '{'.toUInt8 then some .openObject
  else if b = '}'.toUInt8 then some .closeObject
  else if b = ','.toUInt8 then some .comma
  else if b = ':'.toUInt8 then some .colon
  else none

/-- The tokens of a body; `fuel` bounds their number. -/
def tokensWithin : Nat → Bytes → Option (List Token)
  | 0, _ => none
  | fuel + 1, s =>
    match s.dropWhile isBlankByte with
    | [] => some []
    | b :: r =>
      match mark? b with
      | some t => (tokensWithin fuel r).map (t :: ·)
      | none =>
        if b = '"'.toUInt8 then do
          let (ps, rest) ← textPieces r
          let ts ← tokensWithin fuel rest
          return .text (textOf? ps) :: ts
        else do
          let rest ← scalar (b :: r)
          let ts ← tokensWithin fuel rest
          return .scalar :: ts

/-- The tokens of a body. -/
def tokens (s : Bytes) : Option (List Token) := tokensWithin (s.length + 1) s

-- ================================================================ skimming

/-- What kind of bracket is open. -/
inductive Bracket where
  | list
  | object
deriving DecidableEq, Repr

/-- What may come next. -/
inductive Due where
  | value
  /-- A member's name. -/
  | name
  | colon
  /-- A first item or member, or the closing bracket. -/
  | first
  /-- A comma or the closing bracket. -/
  | more
deriving DecidableEq, Repr

/-- Drops a value; the list holds the brackets that are open in it,
inmost first. -/
def skim : Due → List Bracket → List Token → Option (List Token)
  | _, _, [] => none
  | due, opened, t :: r =>
    match due, opened, t with
    | .value, opened, .openList => skim .first (.list :: opened) r
    | .value, opened, .openObject => skim .first (.object :: opened) r
    | .value, [], .text _ => some r
    | .value, [], .scalar => some r
    | .value, opened, .text _ => skim .more opened r
    | .value, opened, .scalar => skim .more opened r
    | .name, opened, .text _ => skim .colon opened r
    | .colon, opened, .colon => skim .value opened r
    | .first, .list :: opened, .openList => skim .first (.list :: .list :: opened) r
    | .first, .list :: opened, .openObject => skim .first (.object :: .list :: opened) r
    | .first, .list :: opened, .text _ => skim .more (.list :: opened) r
    | .first, .list :: opened, .scalar => skim .more (.list :: opened) r
    | .first, .object :: opened, .text _ => skim .colon (.object :: opened) r
    | .more, .list :: opened, .comma => skim .value (.list :: opened) r
    | .more, .object :: opened, .comma => skim .name (.object :: opened) r
    | .first, [.list], .closeList => some r
    | .more, [.list], .closeList => some r
    | .first, [.object], .closeObject => some r
    | .more, [.object], .closeObject => some r
    | .first, .list :: opened, .closeList => skim .more opened r
    | .more, .list :: opened, .closeList => skim .more opened r
    | .first, .object :: opened, .closeObject => skim .more opened r
    | .more, .object :: opened, .closeObject => skim .more opened r
    | _, _, _ => none

-- =============================================================== arguments

/-- The texts of a list that has some, after its bracket. -/
def textItems : List Token → Option (List String × List Token)
  | .text (some s) :: .closeList :: r => some ([s], r)
  | .text (some s) :: .comma :: r => do
    let (rest, r) ← textItems r
    return (s :: rest, r)
  | _ => none

/-- A list of texts. -/
def textList : List Token → Option (List String × List Token)
  | .openList :: .closeList :: r => some ([], r)
  | .openList :: r => textItems r
  | _ => none

/-- The members of an object that has some, after its bracket; `fuel`
bounds their number. There must be only one `args`. -/
def members : Nat → Option (List String) → List Token → Option (List String × List Token)
  | 0, _, _ => none
  | fuel + 1, args, .text (some name) :: .colon :: r => do
    let (args, r) ←
      if name = "args" then
        if args.isSome then none
        else (textList r).map fun (found, r) => (some found, r)
      else (skim .value [] r).map fun r => (args, r)
    match r with
    | .closeObject :: r => return (args.getD [], r)
    | .comma :: r => members fuel args r
    | _ => none
  | _, _, _ => none

/-- The arguments of a whole body and what follows it. -/
def arguments : List Token → Option (List String × List Token)
  | .openObject :: .closeObject :: r => some ([], r)
  | .openObject :: r => members (r.length + 1) none r
  | .openList :: .closeList :: r => some ([], r)
  | .openList :: r => do
    match ← textList r with
    | (args, .closeList :: r) => return (args, r)
    | _ => none
  | _ => none

/-- The arguments that a body carries. -/
def argsOf? (body : Bytes) : Option (List String) := do
  match ← arguments (← tokens body) with
  | (args, []) => return args
  | _ => none

end Warden.Admin.Command
