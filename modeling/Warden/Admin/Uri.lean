/-
Request targets: which texts are targets, and the path in one.

# Contents

`Uri.path? text` is the path that a request for the target `text` asks
for, or nothing if the text is no target. A target is a path with or
without a query, a whole address with a scheme and an authority, an
authority alone, or an asterisk. An authority alone has the empty path;
after a whole address an empty path is the root.

Characters beyond ASCII may stand in paths and queries, controls may not.
What follows a number sign is not looked at.
-/
import Warden.Text.Hex

namespace Warden.Admin

namespace Uri

/-- A target has at most this many bytes. -/
def maxLength : Nat := 65534

def isLetter (c : Char) : Bool :=
  let n := c.toNat
  (65 ≤ n && n ≤ 90) || (97 ≤ n && n ≤ 122)

def isDigit (c : Char) : Bool := 48 ≤ c.toNat && c.toNat ≤ 57

-- ========================================================= path and query

/-- What a path may hold. -/
def inPath (c : Char) : Bool :=
  let n := c.toNat
  n == 0x21 || (0x24 ≤ n && n ≤ 0x3B) || n == 0x3D || (0x40 ≤ n && n ≤ 0x5F)
    || (0x61 ≤ n && n ≤ 0x7A) || n == 0x7C || n == 0x7E || 0x80 ≤ n
    || c == '"' || c == '{' || c == '}'

/-- What a query may hold. -/
def inQuery (c : Char) : Bool :=
  let n := c.toNat
  n == 0x21 || (0x24 ≤ n && n ≤ 0x3B) || n == 0x3D || (0x3F ≤ n && n != 0x7F)

/-- The path before a query and a fragment. -/
def beforeQuery (s : List Char) : Option (List Char) :=
  let path := s.takeWhile inPath
  match s.dropWhile inPath with
  | [] => some path
  | '#' :: _ => some path
  | '?' :: query =>
    match query.dropWhile inQuery with
    | [] => some path
    | '#' :: _ => some path
    | _ => none
  | _ => none

-- =============================================================== authority

/-- What an authority may hold besides percent signs. -/
def inAuthority (c : Char) : Bool :=
  isLetter c || isDigit c || "!$&'()*+,-.:;=@[]_~".toList.contains c

/-- How far an authority has been read. -/
structure Authority where
  colons : Nat := 0
  opened : Bool := false
  closed : Bool := false
  percent : Bool := false
  /-- Nothing was read after the last at sign. -/
  bare : Bool := false

/-- Reads on; what is said of colons and percent signs starts anew after
an at sign and after a bracketed host. -/
def Authority.read (a : Authority) (c : Char) : Option Authority :=
  if c = ':' then
    if a.colons < 8 then some { a with colons := a.colons + 1, bare := false } else none
  else if c = '[' then
    if a.percent || a.opened then none else some { a with opened := true, bare := false }
  else if c = ']' then
    if !a.opened || a.closed then none
    else some { a with closed := true, colons := 0, percent := false, bare := false }
  else if c = '@' then some { a with colons := 0, percent := false, bare := true }
  else if c = '%' then some { a with percent := true, bare := false }
  else if inAuthority c then some { a with bare := false }
  else none

/-- Whether an authority may end here. -/
def Authority.mayEnd (a : Authority) : Bool :=
  a.opened == a.closed && a.colons ≤ 1 && !a.bare && !a.percent

/-- Whether a character ends an authority. -/
def endsAuthority (c : Char) : Bool := c == '/' || c == '?' || c == '#'

/-- What follows an authority, if it is one. -/
def afterAuthority (s : List Char) : Option (List Char) := do
  let a ← (s.takeWhile (fun c => !endsAuthority c)).foldlM Authority.read {}
  if a.mayEnd then some (s.dropWhile (fun c => !endsAuthority c)) else none

-- ================================================================== scheme

/-- What a scheme may hold. -/
def inScheme (c : Char) : Bool :=
  isLetter c || isDigit c || c == '+' || c == '-' || c == '.' || c == '~'

/-- A scheme has at most this many characters. -/
def maxScheme : Nat := 64

/-- How a target starts. -/
inductive Start where
  /-- With a scheme; this is what follows it. -/
  | scheme (rest : List Char)
  | schemeTooLong
  | other

def start (s : List Char) : Start :=
  match s.dropWhile inScheme with
  | ':' :: '/' :: '/' :: rest =>
    if (s.takeWhile inScheme).length > maxScheme then .schemeTooLong else .scheme rest
  | _ => .other

-- ================================================================= targets

/-- The path of a target. -/
def pathOf? (s : List Char) : Option (List Char) :=
  match s with
  | [] => none
  | ['*'] => some ['*']
  | '/' :: _ => beforeQuery s
  | s =>
    match start s with
    | .schemeTooLong => none
    | .scheme rest => do
      let after ← afterAuthority rest
      if after.length = rest.length then none
      let path ← beforeQuery after
      return if path.isEmpty then ['/'] else path
    | .other => do
      let after ← afterAuthority s
      if after.isEmpty then return [] else none

/-- The path of a target that is not too long. -/
def path? (text : String) : Option String :=
  if text.utf8ByteSize > maxLength then none
  else (pathOf? text.toList).map String.ofList

end Uri

end Warden.Admin
