/-
Socket addresses: an IP address and a port, as text.

# Contents

`SocketAddress.ofText?` reads `1.2.3.4:80` and `[fe80::1%2]:80`. Each
reader takes what it can from the front of a text and gives back the
rest, or reads nothing at all; an address is accepted when nothing is
left over.

# The form of numbers

An octet has at most three digits and no leading zero. A group of a long
address has at most four hexadecimal digits. Ports and scopes may have
any number of leading zeros and must fit in sixteen and thirty-two bits.
-/
import Warden.Text.Hex

namespace Warden

open Text

/-- An address of four octets or of eight groups, with its port. -/
inductive SocketAddress where
  | v4 (octets : List Nat) (port : Nat)
  | v6 (groups : List Nat) (scope : Nat) (port : Nat)
deriving DecidableEq, Repr

namespace SocketAddress

/-- A reader takes from the front of a text, or refuses it. -/
abbrev Reader (α : Type) := List Char → Option (α × List Char)

/-- The digits at the front of a text, as values, and the rest. -/
def digits (value? : Char → Option Nat) : List Char → List Nat × List Char
  | [] => ([], [])
  | c :: r =>
    match value? c with
    | none => ([], c :: r)
    | some v =>
      let (vs, rest) := digits value? r
      (v :: vs, rest)

/-- The number that digits write. -/
def number (base : Nat) (ds : List Nat) : Nat := ds.foldl (fun n d => n * base + d) 0

/-- A number of one digit or more that is below a bound. -/
def bounded (bound : Nat) : Reader Nat := fun s =>
  let (ds, rest) := digits decimalValue? s
  if ds ≠ [] ∧ number 10 ds < bound then some (number 10 ds, rest) else none

/-- An octet: below 256, at most three digits, no leading zero. -/
def octet : Reader Nat := fun s =>
  let (ds, rest) := digits decimalValue? s
  if ds ≠ [] ∧ ds.length ≤ 3 ∧ (ds.head? ≠ some 0 ∨ ds.length = 1) ∧ number 10 ds < 256 then
    some (number 10 ds, rest)
  else none

/-- A group: at most four hexadecimal digits. -/
def group : Reader Nat := fun s =>
  let (ds, rest) := digits hexValue? s
  if ds ≠ [] ∧ ds.length ≤ 4 then some (number 16 ds, rest) else none

/-- One given character. -/
def exactly (c : Char) : Reader Unit
  | d :: r => if d = c then some ((), r) else none
  | [] => none

/-- Four octets between dots. -/
def octets : Reader (List Nat) := fun s => do
  let (a, s) ← octet s
  let (_, s) ← exactly '.' s
  let (b, s) ← octet s
  let (_, s) ← exactly '.' s
  let (c, s) ← octet s
  let (_, s) ← exactly '.' s
  let (d, s) ← octet s
  return ([a, b, c, d], s)

/-- What separates the groups: a colon, except before the first. -/
def separator (first : Bool) : Reader Unit := fun s =>
  if first then some ((), s) else exactly ':' s

/-- At most `limit` groups between colons. Four octets may stand for the
last two; the flag tells that they do. -/
def groups : Nat → Bool → List Char → List Nat × Bool × List Char
  | 0, _, s => ([], false, s)
  | limit + 1, first, s =>
    let short : Option (List Nat × List Char) :=
      if limit = 0 then none
      else do
        let (_, s) ← separator first s
        octets s
    match short with
    | some (os, rest) =>
      (match os with
        | [a, b, c, d] => [a * 256 + b, c * 256 + d]
        | _ => [], true, rest)
    | none =>
      match (do let (_, s) ← separator first s; group s : Option (Nat × List Char)) with
      | none => ([], false, s)
      | some (g, rest) =>
        let (gs, short, rest) := groups limit false rest
        (g :: gs, short, rest)

/-- Eight groups, of which two colons may leave out one or more. -/
def longAddress : Reader (List Nat) := fun s =>
  let (head, short, rest) := groups 8 true s
  if head.length = 8 then some (head, rest)
  else if short then none
  else do
    let (_, rest) ← exactly ':' rest
    let (_, rest) ← exactly ':' rest
    let (tail, _, rest) := groups (8 - (head.length + 1)) true rest
    return (head ++ List.replicate (8 - head.length - tail.length) 0 ++ tail, rest)

/-- A colon and a port. -/
def port : Reader Nat := fun s => do
  let (_, s) ← exactly ':' s
  bounded 65536 s

/-- A percent sign and a scope; without one the scope is zero. -/
def scope : Reader Nat := fun s =>
  match (do let (_, s) ← exactly '%' s; bounded 4294967296 s : Option (Nat × List Char)) with
  | some found => some found
  | none => some (0, s)

def shortSocket : Reader SocketAddress := fun s => do
  let (os, s) ← octets s
  let (p, s) ← port s
  return (.v4 os p, s)

def longSocket : Reader SocketAddress := fun s => do
  let (_, s) ← exactly '[' s
  let (gs, s) ← longAddress s
  let (z, s) ← scope s
  let (_, s) ← exactly ']' s
  let (p, s) ← port s
  return (.v6 gs z p, s)

/-- The socket address that a text writes. -/
def ofText? (text : String) : Option SocketAddress :=
  match shortSocket text.toList with
  | some (a, []) => some a
  | some _ => none
  | none =>
    match longSocket text.toList with
    | some (a, []) => some a
    | _ => none

end SocketAddress

end Warden
