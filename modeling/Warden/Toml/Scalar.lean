/-
The single values of TOML: strings, numbers, dates and times.

# Contents

Each reader takes a value from the front of a text and gives back the
rest, or refuses the text. What may follow a value is for the reader of
the whole document to say; so `1.` is read here as the integer 1 with a
rest that no document allows.

# Numbers

Digits may be grouped by single underscores between them. Integers have
64 bits. A positive floating point number too large for its 64 bits is
refused, a negative one is taken as minus infinity.
-/
import Warden.Text.Hex
import Warden.Toml.Value

namespace Warden.Toml

open Text

/-- Takes a value from the front of a text. -/
abbrev Reader (α : Type) := List Char → Option (α × List Char)

/-- Drops a given text from the front. -/
def literally (word : List Char) (s : List Char) : Option (List Char) :=
  if word.isPrefixOf s then some (s.drop word.length) else none

def isDigit (c : Char) : Bool := (decimalValue? c).isSome

/-- Blanks within a line. -/
def isSpace (c : Char) : Bool := c == ' ' || c == '\t'

def skipSpace (s : List Char) : List Char := s.dropWhile isSpace

/-- Drops one line end. -/
def newline? : List Char → Option (List Char)
  | '\n' :: r => some r
  | '\r' :: '\n' :: r => some r
  | _ => none

-- ============================================================ characters

/-- Printable, or beyond ASCII. -/
def isPlain (c : Char) : Bool := 0x20 ≤ c.toNat && c.toNat ≠ 0x7F

/-- What a comment may hold. -/
def inComment (c : Char) : Bool := isPlain c || c == '\t'

/-- What stands for itself between double quotes. -/
def inBasic (c : Char) : Bool := (isPlain c || c == '\t') && c != '"' && c != '\\'

/-- What stands for itself between single quotes. -/
def inLiteral (c : Char) : Bool := (isPlain c || c == '\t') && c != '\''

/-- What a key without quotes is made of. -/
def inBareKey (c : Char) : Bool :=
  let n := c.toNat
  isDigit c || (65 ≤ n && n ≤ 90) || (97 ≤ n && n ≤ 122) || c == '-' || c == '_'

-- =============================================================== strings

/-- The character whose number `count` hexadecimal digits write. -/
def numbered (count : Nat) : Reader Char := fun s => do
  let ds ← (s.take count).mapM hexValue?
  if ds.length ≠ count then none
  let n := ds.foldl (fun n d => n * 16 + d) 0
  if n < 0xD800 ∨ (0xDFFF < n ∧ n < 0x110000) then some (Char.ofNat n, s.drop count) else none

/-- What stands after a backslash. -/
def escaped : Reader Char
  | 'b' :: r => some ('\x08', r)
  | 't' :: r => some ('\t', r)
  | 'n' :: r => some ('\n', r)
  | 'f' :: r => some ('\x0c', r)
  | 'r' :: r => some ('\r', r)
  | '"' :: r => some ('"', r)
  | '\\' :: r => some ('\\', r)
  | 'u' :: r => numbered 4 r
  | 'U' :: r => numbered 8 r
  | _ => none

/-- The rest of a string between double quotes; `fuel` bounds its length. -/
def basicBody : Nat → Reader (List Char)
  | 0, _ => none
  | fuel + 1, s =>
    match s with
    | '"' :: r => some ([], r)
    | '\\' :: r => do
      let (c, r) ← escaped r
      let (cs, r) ← basicBody fuel r
      return (c :: cs, r)
    | c :: r =>
      if inBasic c then do
        let (cs, r) ← basicBody fuel r
        return (c :: cs, r)
      else none
    | [] => none

/-- A string between single quotes on one line, after the first of them. -/
def literalBody (s : List Char) : Option (List Char × List Char) :=
  match s.dropWhile inLiteral with
  | '\'' :: r => some (s.takeWhile inLiteral, r)
  | _ => none

/-- After a backslash that ends a line: the blank rest of the line, and
all blanks and line ends after it. -/
def foldedLine? (s : List Char) : Option (List Char) := do
  let rest ← newline? (skipSpace s)
  let rec skip : Nat → List Char → List Char
    | 0, s => s
    | fuel + 1, s =>
      match newline? s with
      | some r => skip fuel r
      | none =>
        match s with
        | c :: r => if isSpace c then skip fuel r else s
        | [] => []
  return skip rest.length rest

/-- The end of a string in triple quotes: one or two quotes may stand
before the three that close it. -/
def tripleEnd? (quote : Char) (s : List Char) : Option (List Char × List Char) :=
  let n := (s.takeWhile (· == quote)).length
  if n < 3 then none
  else
    let extra := min (n - 3) 2
    some (List.replicate extra quote, s.drop (extra + 3))

/-- The rest of a string in triple quotes. Line ends become newlines;
between double quotes there are escapes and folded lines. -/
def tripleBody (quote : Char) : Nat → Reader (List Char)
  | 0, _ => none
  | fuel + 1, s =>
    match tripleEnd? quote s with
    | some found => some found
    | none =>
      match newline? s with
      | some r => do
        let (cs, r) ← tripleBody quote fuel r
        return ('\n' :: cs, r)
      | none =>
        match s with
        | '\\' :: r =>
          if quote = '"' then
            match foldedLine? r with
            | some r => tripleBody quote fuel r
            | none => do
              let (c, r) ← escaped r
              let (cs, r) ← tripleBody quote fuel r
              return (c :: cs, r)
          else do
            let (cs, r) ← tripleBody quote fuel r
            return ('\\' :: cs, r)
        | c :: r =>
          if isPlain c || c == '\t' then do
            let (cs, r) ← tripleBody quote fuel r
            return (c :: cs, r)
          else none
        | [] => none

/-- A string in triple quotes, after the first three; a line end right
there is dropped. -/
def tripleString (quote : Char) : Reader (List Char) := fun s =>
  let s := (newline? s).getD s
  tripleBody quote (s.length + 1) s

/-- A string on one line, in quotes of either kind. -/
def lineString : Reader (List Char)
  | '"' :: r => basicBody (r.length + 1) r
  | '\'' :: r => literalBody r
  | _ => none

/-- A string in any form. -/
def anyString : Reader (List Char)
  | '"' :: '"' :: '"' :: r => tripleString '"' r
  | '\'' :: '\'' :: '\'' :: r => tripleString '\'' r
  | s => lineString s

-- =============================================================== numbers

/-- Digits with single underscores between them. -/
def grouped (isDigit : Char → Bool) : List Char → List Char × List Char
  | c :: '_' :: d :: r =>
    if isDigit c then
      if isDigit d then
        let (ds, rest) := grouped isDigit (d :: r)
        (c :: ds, rest)
      else ([c], '_' :: d :: r)
    else ([], c :: '_' :: d :: r)
  | c :: r =>
    if isDigit c then
      let (ds, rest) := grouped isDigit r
      (c :: ds, rest)
    else ([], c :: r)
  | [] => ([], [])

/-- The value of digits in a base. -/
def valueOf (base : Nat) (ds : List Char) : Nat :=
  ds.foldl (fun n c => n * base + (hexValue? c).getD 0) 0

/-- A sign, if there is one; whether it is a minus. -/
def sign : List Char → Bool × List Char
  | '+' :: r => (false, r)
  | '-' :: r => (true, r)
  | r => (false, r)

/-- The digits of a decimal number: a zero stands alone. -/
def decimalDigits : Reader (List Char)
  | '0' :: r => some (['0'], r)
  | s =>
    match grouped isDigit s with
    | ([], _) => none
    | found => some found

/-- Digits of which the first may be a zero. -/
def someDigits : Reader (List Char) := fun s =>
  match grouped isDigit s with
  | ([], _) => none
  | found => some found

/-- Integers are below this; their negatives reach it. -/
def integerBound : Nat := 9223372036854775808

/-- An integer in base two, eight or sixteen, after its mark. -/
def based (base : Nat) (isDigit : Char → Bool) : Reader Value := fun s =>
  match grouped isDigit s with
  | ([], _) => none
  | (ds, rest) =>
    let n := valueOf base ds
    if n < integerBound then some (.integer n, rest) else none

def isHexDigit (c : Char) : Bool := (hexValue? c).isSome

def isOctalDigit (c : Char) : Bool := 48 ≤ c.toNat && c.toNat ≤ 55

def isBinaryDigit (c : Char) : Bool := c == '0' || c == '1'

/-- An integer. -/
def integer : Reader Value
  | '0' :: 'x' :: r => based 16 isHexDigit r
  | '0' :: 'o' :: r => based 8 isOctalDigit r
  | '0' :: 'b' :: r => based 2 isBinaryDigit r
  | s => do
    let (minus, r) := sign s
    let (ds, r) ← decimalDigits r
    let n : Int := if minus then -(valueOf 10 ds : Int) else valueOf 10 ds
    if -(integerBound : Int) ≤ n ∧ n < integerBound then some (.integer n, r) else none

/-- The exponent part of a number. -/
def exponent : Reader Int
  | c :: r =>
    if c = 'e' ∨ c = 'E' then do
      let (minus, r) := sign r
      let (ds, r) ← someDigits r
      return (if minus then -(valueOf 10 ds : Int) else valueOf 10 ds, r)
    else none
  | [] => none

/-- The part of a number after the point. -/
def fraction : Reader (List Char)
  | '.' :: r => someDigits r
  | _ => none

/-- Whether `digits * 10 ^ exponent` rounds to infinity in 64 bits: it is
no less than the middle between the largest number and the next power of
two. -/
def tooLarge (digits : List Char) (exponent : Int) : Bool :=
  let significant := digits.dropWhile (· == '0')
  let magnitude : Int := significant.length + exponent
  if significant.isEmpty || magnitude < 309 then false
  else if magnitude > 309 then true
  else
    let bound := Nat.pow 2 1024 - Nat.pow 2 970
    let n := valueOf 10 significant
    if exponent ≥ 0 then bound ≤ n * Nat.pow 10 exponent.toNat
    else bound * Nat.pow 10 (-exponent).toNat ≤ n

/-- A floating point number with a fraction, an exponent or both. -/
def float : Reader Value := fun s => do
  let (minus, r) := sign s
  let (whole, r) ← decimalDigits r
  let (part, power, rest) ←
    match exponent r with
    | some (e, rest) => some ([], e, rest)
    | none =>
      match fraction r with
      | none => none
      | some (part, r) =>
        match exponent r with
        | some (e, rest) => some (part, e, rest)
        | none => some (part, 0, r)
  if !minus && tooLarge (whole ++ part) (power - part.length) then none
  return (.float (String.ofList (s.take (s.length - rest.length))), rest)

/-- Infinity or no number, with or without a sign. -/
def specialFloat : Reader Value := fun s =>
  let (_, r) := sign s
  match r with
  | 'i' :: 'n' :: 'f' :: rest => some (.float (String.ofList (s.take (s.length - rest.length))), rest)
  | 'n' :: 'a' :: 'n' :: rest => some (.float (String.ofList (s.take (s.length - rest.length))), rest)
  | _ => none

-- ======================================================== dates and times

/-- A number of exactly so many digits within bounds. -/
def fixed (count low high : Nat) : Reader Nat := fun s =>
  let ds := s.take count
  if ds.length = count ∧ ds.all isDigit then
    let n := valueOf 10 ds
    if low ≤ n ∧ n ≤ high then some (n, s.drop count) else none
  else none

/-- The days of a month. -/
def daysIn (year month : Nat) : Nat :=
  if month = 2 then
    if year % 4 = 0 ∧ (year % 100 ≠ 0 ∨ year % 400 = 0) then 29 else 28
  else if month = 4 ∨ month = 6 ∨ month = 9 ∨ month = 11 then 30
  else 31

/-- A date that exists. -/
def date (s : List Char) : Option (List Char) := do
  let (year, r) ← fixed 4 0 9999 s
  let r ← literally ['-'] r
  let (month, r) ← fixed 2 1 12 r
  let r ← literally ['-'] r
  let (_, r) ← fixed 2 1 (daysIn year month) r
  return r

/-- A time of day, seconds given, a leap second allowed. -/
def time (s : List Char) : Option (List Char) := do
  let (_, r) ← fixed 2 0 23 s
  let r ← literally [':'] r
  let (_, r) ← fixed 2 0 59 r
  let r ← literally [':'] r
  let (_, r) ← fixed 2 0 60 r
  match r with
  | '.' :: t => if t.takeWhile isDigit = [] then some r else some (t.dropWhile isDigit)
  | r => some r

/-- An offset from universal time. -/
def offset : List Char → Option (List Char)
  | 'Z' :: r => some r
  | 'z' :: r => some r
  | c :: r =>
    if c = '+' ∨ c = '-' then do
      let (_, r) ← fixed 2 0 23 r
      let r ← literally [':'] r
      let (_, r) ← fixed 2 0 59 r
      return r
    else none
  | [] => none

/-- After a date: a mark or one blank, a time, and perhaps an offset. -/
def timeOfDate : List Char → Option (List Char)
  | c :: r =>
    if c = 'T' ∨ c = 't' ∨ c = ' ' then do
      let r ← time r
      return (offset r).getD r
    else none
  | [] => none

/-- A date, a date with a time, or a time. -/
def datetime : Reader Value := fun s => do
  let rest ←
    match date s with
    | some r => some ((timeOfDate r).getD r)
    | none => time s
  return (.datetime (String.ofList (s.take (s.length - rest.length))), rest)

/-- Any value that starts with a sign or a digit. -/
def numeric : Reader Value := fun s =>
  datetime s <|> float s <|> integer s <|> specialFloat s

end Warden.Toml
