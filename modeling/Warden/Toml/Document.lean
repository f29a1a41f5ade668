/-
TOML documents: keys, nested values, statements, and the whole text.

# Contents

`value depth` reads a value that may nest arrays and inline tables
`depth` deep. A document is a list of statements, each on lines of its
own: a header or an assignment. `Document.read` reads the statements one
after the other and builds the root table as it goes; anything wrong
anywhere makes it fail.

# Limits

Values nest seventy-nine deep at most, and a key has at most
seventy-nine parts.
-/
import Warden.Toml.Scalar

namespace Warden.Toml

/-- Values nest this deep at most, and keys have at most so many parts. -/
def maxDepth : Nat := 79

-- ================================================================= layout

/-- Drops a comment, if there is one, up to its line end. -/
def skipComment : List Char → List Char
  | '#' :: r => r.dropWhile inComment
  | s => s

/-- Drops blanks, comments and line ends; `fuel` bounds their number. A
comment must be closed by a line end. -/
def skipLines : Nat → List Char → Option (List Char)
  | 0, s => some s
  | fuel + 1, s =>
    match skipSpace s with
    | '#' :: r => do
      let r ← newline? (r.dropWhile inComment)
      skipLines fuel r
    | s =>
      match newline? s with
      | some r => skipLines fuel r
      | none => some s

/-- Drops what may stand between lines. -/
def skipBetween (s : List Char) : Option (List Char) := skipLines (s.length + 1) s

/-- Drops the end of a line: blanks, a comment, and the line end unless
the text is over. -/
def lineEnd (s : List Char) : Option (List Char) :=
  match skipComment (skipSpace s) with
  | [] => some []
  | s => newline? s

-- =================================================================== keys

/-- One part of a key. -/
def keyPart : Reader String
  | '"' :: r => (lineString ('"' :: r)).map fun (cs, r) => (String.ofList cs, r)
  | '\'' :: r => (lineString ('\'' :: r)).map fun (cs, r) => (String.ofList cs, r)
  | s =>
    match s.takeWhile inBareKey with
    | [] => none
    | cs => some (String.ofList cs, s.dropWhile inBareKey)

/-- The parts of a key between dots, blanks around each; `fuel` bounds
their number. -/
def keyParts : Nat → Reader (List String)
  | 0, _ => none
  | fuel + 1, s => do
    let (part, r) ← keyPart (skipSpace s)
    match skipSpace r with
    | '.' :: r => do
      let (parts, r) ← keyParts fuel r
      return (part :: parts, r)
    | r => return ([part], r)

/-- A key as the path to its last part, and that part. -/
def key : Reader (List String × String) := fun s => do
  let (parts, r) ← keyParts maxDepth s
  let last ← parts.getLast?
  return ((parts.dropLast, last), r)

-- ================================================================= values

/-- Items of an array between commas, one at the end allowed, and the
closing bracket; `fuel` bounds their number. -/
def arrayItems (item : Reader Value) : Nat → Reader (List Value)
  | 0, _ => none
  | fuel + 1, s => do
    let s ← skipBetween s
    match s with
    | ']' :: r => return ([], r)
    | s => do
      let (v, r) ← item s
      let r ← skipBetween r
      match r with
      | ',' :: r => do
        let (vs, r) ← arrayItems item fuel r
        return (v :: vs, r)
      | ']' :: r => return ([v], r)
      | _ => none

/-- A key, an equals sign and a value, blanks around each. -/
def assignment (item : Reader Value) : Reader (List String × String × Value) := fun s => do
  let ((path, last), r) ← key s
  let r ← literally ['='] r
  let (v, r) ← item (skipSpace r)
  return ((path, last, v), r)

/-- Assignments of an inline table between commas, on one line, and the
closing brace; `fuel` bounds their number. -/
def inlineItems (item : Reader Value) : Nat → Table → Reader Table
  | 0, _, _ => none
  | fuel + 1, t, s => do
    let ((path, last, v), r) ← assignment item s
    let t ← t.assign path last v
    match skipSpace r with
    | ',' :: r => inlineItems item fuel t r
    | '}' :: r => return (t, r)
    | _ => none

/-- An inline table, after its opening brace. -/
def inlineTable (item : Reader Value) : Reader Table := fun s =>
  match skipSpace s with
  | '}' :: r => some (.new .opened, r)
  | _ => inlineItems item (s.length + 1) (.new .opened) s

/-- A value that nests no deeper than `depth`. -/
def value : Nat → Reader Value
  | depth, s =>
    match s with
    | [] => none
    | c :: r =>
      if c = '"' ∨ c = '\'' then (anyString s).map fun (cs, r) => (.string (String.ofList cs), r)
      else if c = '[' then
        match depth with
        | 0 => none
        | depth + 1 =>
          (arrayItems (value depth) (r.length + 1) r).map fun (vs, r) => (.array vs, r)
      else if c = '{' then
        match depth with
        | 0 => none
        | depth + 1 => (inlineTable (value depth) r).map fun (t, r) => (.inline t.entries, r)
      else if c = '+' ∨ c = '-' ∨ isDigit c then numeric s
      else if c = 't' then (literally "true".toList s).map fun r => (.boolean true, r)
      else if c = 'f' then (literally "false".toList s).map fun r => (.boolean false, r)
      else specialFloat s

-- ============================================================== documents

/-- A document as far as it is read. -/
structure Document where
  root : Table
  /-- The path of the table that assignments go to. -/
  current : List String

namespace Document

/-- Nothing read yet: assignments go to the root. -/
def start : Document := ⟨.new .opened, []⟩

/-- A header: one table, or one more of a list of tables. -/
def header (d : Document) (list : Bool) (path : List String) (last : String) :
    Option Document := do
  let root ← if list then d.root.openItem path last else d.root.openTable path last
  return ⟨root, path ++ [last]⟩

/-- Gives a key of the current table its value. -/
def assign (d : Document) (path : List String) (last : String) (v : Value) : Option Document := do
  let root ← d.root.descend false (fun t => t.assign path last v) d.current
  return { d with root }

/-- Reads one statement with the end of its line. -/
def statement (d : Document) (s : List Char) : Option (Document × List Char) :=
  match s with
  | '[' :: '[' :: r => do
    let ((path, last), r) ← key r
    let r ← literally [']', ']'] r
    let d ← d.header true path last
    return (d, ← lineEnd r)
  | '[' :: r => do
    let ((path, last), r) ← key r
    let r ← literally [']'] r
    let d ← d.header false path last
    return (d, ← lineEnd r)
  | s => do
    let ((path, last, v), r) ← assignment (value maxDepth) s
    let d ← d.assign path last v
    return (d, ← lineEnd r)

/-- Reads the statements of a text; `fuel` bounds their number. -/
def statements : Nat → Document → List Char → Option Document
  | 0, _, _ => none
  | fuel + 1, d, s =>
    match skipSpace s with
    | [] => some d
    | '#' :: r => do statements fuel d (← lineEnd ('#' :: r))
    | s =>
      match newline? s with
      | some r => statements fuel d r
      | none => do
        let (d, r) ← d.statement s
        statements fuel d r

/-- The root table of a text. A byte order mark at the start is dropped. -/
def read (text : String) : Option Table :=
  let s := match text.toList with
    | '\uFEFF' :: r => r
    | s => s
  (statements (s.length + 1) start s).map (·.root)

end Document

end Warden.Toml
