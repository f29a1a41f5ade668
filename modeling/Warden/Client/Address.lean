/-
Addresses of web resources: the path that a written address leads to.

# Contents

An address is written as a base followed by a path. `requested` is the
path that a request for it asks for: blanks at the end and all tabs and
line ends are dropped, a question mark or a number sign ends the path,
a backslash is a slash, a part of one dot stays, a part of two dots goes
back, and a character that no path may hold is percent-encoded. A percent
sign stays as it is, so what was encoded before is not encoded again.

What follows the path goes along in the address without being looked at
(`afterPath`), so that it counts for nothing but its length.
-/
import Warden.Text.Pieces
import Warden.Text.Percent

namespace Warden.Client

open Text

/-- A control character or a blank. -/
def isControlOrBlank (c : Char) : Bool := c.toNat ≤ 0x20

/-- A tab or the end of a line. -/
def isDropped (c : Char) : Bool := c == '\t' || c == '\n' || c == '\r'

/-- An address without what is dropped from it. -/
def tidy (s : List Char) : List Char :=
  ((s.reverse.dropWhile isControlOrBlank).reverse).filter fun c => !isDropped c

/-- Whether a character ends a path. -/
def endsPath (c : Char) : Bool := c == '?' || c == '#'

/-- A part of a path that stays where it is. -/
def isSingleDot (part : List Char) : Bool :=
  let lower := part.map Char.toLower
  lower == ".".toList || lower == "%2e".toList

/-- A part of a path that goes back. -/
def isDoubleDot (part : List Char) : Bool :=
  let lower := part.map Char.toLower
  ["..", ".%2e", "%2e.", "%2e%2e"].any fun dots => lower == dots.toList

/-- The bytes that stand for themselves in a path. -/
def isPlainByte (b : UInt8) : Bool :=
  0x21 ≤ b && b ≤ 0x7E && !("\"#<>?\x60\x7b\x7d".toList.map Char.toUInt8).contains b

/-- A part of a path as it is requested. -/
def encoded (part : List Char) : List Char :=
  percentEncode isPlainByte (part.flatMap String.utf8EncodeChar)

/-- Walks the parts of a path; a path that ends in dots ends in a slash. -/
def resolve : List (List Char) → List (List Char) → List (List Char)
  | done, [] => done
  | done, [part] =>
    if isDoubleDot part then done.dropLast ++ [[]]
    else if isSingleDot part then done ++ [[]]
    else done ++ [encoded part]
  | done, part :: rest =>
    if isDoubleDot part then resolve done.dropLast rest
    else if isSingleDot part then resolve done rest
    else resolve (done ++ [encoded part]) rest

/-- The path that is requested where `path` is written after a base. -/
def requested (path : List Char) : List Char :=
  let written := (tidy path).takeWhile fun c => !endsPath c
  let slashed := written.map fun c => if c = '\\' then '/' else c
  match pieces '/' slashed with
  | [] :: parts => '/' :: List.intercalate ['/'] (resolve [] parts)
  | parts => '/' :: List.intercalate ['/'] (resolve [] parts)

/-- The bytes that stand for themselves after a question mark. -/
def isPlainInQuery (b : UInt8) : Bool :=
  0x21 ≤ b && b ≤ 0x7E && !("\"#<>'".toList.map Char.toUInt8).contains b

/-- The bytes that stand for themselves after a number sign. -/
def isPlainInFragment (b : UInt8) : Bool :=
  0x21 ≤ b && b ≤ 0x7E && !("\"<>\x60".toList.map Char.toUInt8).contains b

/-- What follows the path that is requested. -/
def afterPath (path : List Char) : List Char :=
  let rest := (tidy path).dropWhile fun c => !endsPath c
  let query := rest.takeWhile (· ≠ '#')
  let fragment := rest.dropWhile (· ≠ '#')
  (match query with
    | '?' :: r => '?' :: percentEncode isPlainInQuery (r.flatMap String.utf8EncodeChar)
    | _ => [])
  ++ (match fragment with
    | '#' :: r => '#' :: percentEncode isPlainInFragment (r.flatMap String.utf8EncodeChar)
    | _ => [])

/-- The length of the address that is asked for, in bytes. -/
def addressLength (url : String) (path : List Char) : Nat :=
  (utf8 url).length + (requested path).length + (afterPath path).length

end Warden.Client
