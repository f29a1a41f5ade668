/-
Records: what one line of a dataset file says, and how a file lays its
lines out.

# Contents

A `Layout` is the shape that every line of a file must have. A line of
that shape is a `Record`; a line of another shape is an `InvalidLine`,
kept with the number of fields it had. `Contents` is what a whole file
holds, both kinds in file order.
-/

namespace Warden

/-- The shape of a file's lines. -/
inductive Layout where
  /-- The line is a key. -/
  | list
  /-- A key, the delimiter, and values separated by commas. -/
  | keyValues (delimiter : Char)
  /-- Exactly `count` fields separated by the delimiter, the key first. -/
  | fields (delimiter : Char) (count : Nat)
deriving DecidableEq, Repr

/-- What one line says. -/
structure Record where
  /-- The number of the line in its file, from one. -/
  lineNo : Nat
  key : String
  /-- The values of a key, or the fields after it; none in a list. -/
  values : List String
deriving DecidableEq, Repr

/-- A line that has not the shape of its layout. -/
structure InvalidLine where
  lineNo : Nat
  /-- The line without blank ends. -/
  line : String
  /-- How many fields the line had. -/
  fields : Nat
deriving DecidableEq, Repr

/-- What a file holds, in file order. -/
structure Contents where
  records : List Record
  invalid : List InvalidLine
deriving DecidableEq, Repr

end Warden
