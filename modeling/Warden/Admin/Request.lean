/-
Requests to the administrative interface.

# Contents

`Request.make?` puts a request together if method, target and headers
are well formed. `Request.token?` is what follows `Bearer` in its first
`authorization` header. A header with anything but visible ASCII, blanks
and tabs has no token.
-/
import Warden.Admin.Uri
import Warden.Text.Utf8

namespace Warden.Admin

open Text

/-- A header, its name in lower case. -/
structure Header where
  name : String
  value : List UInt8
deriving DecidableEq, Repr

structure Request where
  method : String
  /-- The path of the target, as it is written. -/
  path : String
  headers : List Header
  body : List UInt8
  /-- What a JSON parser says about the body, if it finds no command in it. -/
  detail : String := ""
deriving DecidableEq, Repr

/-- What a method or the name of a header is made of. -/
def isTokenChar (c : Char) : Bool :=
  Uri.isLetter c || Uri.isDigit c || "!#$%&'*+-.^_|~\x60".toList.contains c

def isToken (s : String) : Bool := s ≠ "" && s.toList.all isTokenChar

/-- What the value of a header may hold. -/
def inHeader (b : UInt8) : Bool := (0x20 ≤ b && b ≠ 0x7F) || b == 0x09

/-- A blank or a tab. -/
def isHeaderBlank (b : UInt8) : Bool := b == 0x20 || b == 0x09

/-- The value of a header without the blanks around it. -/
def trimmedValue (value : List UInt8) : List UInt8 :=
  ((value.dropWhile isHeaderBlank).reverse.dropWhile isHeaderBlank).reverse

namespace Request

/-- A header of a name in any case. -/
def header? (name : String) (value : List UInt8) : Option Header :=
  if isToken name && value.all inHeader then
    some ⟨String.ofList (name.toList.map Char.toLower), value⟩
  else none

/-- A request, if its parts are well formed. -/
def make? (method target : String) (headers : List (String × List UInt8))
    (body : List UInt8) : Option Request := do
  if !isToken method then none
  let path ← Uri.path? target
  let headers ← headers.mapM fun (name, value) => header? name value
  return { method, path, headers, body }

/-- A request as it arrives over a connection: senders may put blanks
around the values of headers. -/
def received? (method target : String) (headers : List (String × List UInt8))
    (body : List UInt8) : Option Request :=
  make? method target (headers.map fun (name, value) => (name, trimmedValue value)) body

-- ========================================================== authorization

/-- The name of the header that carries the key. -/
def keyHeader : String := "authorization"

/-- What stands before the key. -/
def bearer : List UInt8 := utf8 "Bearer "

/-- Visible ASCII, a blank or a tab. -/
def isVisible (b : UInt8) : Bool := (0x20 ≤ b && b < 0x7F) || b == 0x09

/-- The value of the first header of a name. -/
def value? (r : Request) (name : String) : Option (List UInt8) :=
  (r.headers.find? (·.name = name)).map (·.value)

/-- The key that the request shows. -/
def token? (r : Request) : Option (List UInt8) :=
  match r.value? keyHeader with
  | none => none
  | some value =>
    if value.all isVisible && bearer.isPrefixOf value then some (value.drop bearer.length)
    else none

/-- Whether the request shows a key. -/
def shows (r : Request) (key : String) : Bool := r.token? == some (utf8 key)

end Request

end Warden.Admin
