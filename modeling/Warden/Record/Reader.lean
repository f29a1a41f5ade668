/-
Reading dataset text line by line.

# Contents

A line is trimmed first; an empty one and a comment (`#`) say nothing.
`Layout.read` reads one of the others: it gives an `Entry`, or refuses
the line with the number of fields found. `scan` reads a whole text and
is total: one bad line never hides another.

# The keyless line

A layout of zero fields is satisfied by a line of delimiters alone, and
such a line has no first field to be its key. `Refusal.keyless` names
that case. `scan` counts the line as invalid; `parse` refuses the text
that has one. A layout that asks for at least one field never meets the
case, so there both agree (`parse_eq_ok`).
-/
import Warden.Record.Basic
import Warden.Text.Pieces

namespace Warden

open Text

/-- A key with its values, before it has a place in a file. -/
structure Entry where
  key : List Char
  values : List (List Char)
deriving DecidableEq, Repr

/-- Why a line is not of its layout. -/
inductive Refusal where
  /-- It has this many fields, or an empty part where one is needed. -/
  | shape (fields : Nat)
  /-- No field was wanted and none is there, so there is no key. -/
  | keyless
deriving DecidableEq, Repr

/-- The number of fields of a refused line. -/
def Refusal.fields : Refusal → Nat
  | .shape n => n
  | .keyless => 0

-- ============================================================== one line

/-- The fields of a line by position: trimmed, the empty ones at the end
dropped, empty ones inside kept. -/
def positional (d : Char) (line : List Char) : List (List Char) :=
  (((pieces d line).map trim).reverse.dropWhile (·.isEmpty)).reverse

/-- Reads a line that is trimmed, not empty and no comment. -/
def Layout.read : Layout → List Char → Except Refusal Entry
  | .list, line => .ok ⟨line, []⟩
  | .keyValues d, line =>
    match tokens d line with
    | [key, field] =>
      match values field with
      | [] => .error (.shape 1)
      | vs => .ok ⟨key, vs⟩
    | other => .error (.shape other.length)
  | .fields d count, line =>
    match positional d line with
    | [] => if count = 0 then .error .keyless else .error (.shape 0)
    | key :: rest =>
      if rest.length + 1 = count ∧ key ≠ [] then .ok ⟨key, rest⟩
      else .error (.shape (rest.length + 1))

/-- Whether a trimmed line says nothing: it is empty or a comment. -/
def isSilent (line : List Char) : Bool :=
  match line with
  | [] => true
  | c :: _ => c == '#'

-- ============================================================ whole texts

/-- The lines that say something, trimmed, each with its number. -/
def spokenLines (text : List Char) : List (Nat × List Char) :=
  ((lines text).zipIdx 1).filterMap fun (raw, n) =>
    let line := trim raw
    if isSilent line then none else some (n, line)

/-- The record that an entry makes at a line. -/
def Entry.record (e : Entry) (n : Nat) : Record :=
  ⟨n, String.ofList e.key, e.values.map String.ofList⟩

/-- Reads every line of a text. -/
def scan (layout : Layout) (text : String) : Contents where
  records := (spokenLines text.toList).filterMap fun (n, line) =>
    match layout.read line with
    | .ok e => some (e.record n)
    | .error _ => none
  invalid := (spokenLines text.toList).filterMap fun (n, line) =>
    match layout.read line with
    | .ok _ => none
    | .error r => some ⟨n, String.ofList line, r.fields⟩

/-- Why a whole text cannot be read. -/
inductive ParseError where
  /-- Some line satisfies its layout without having a key. -/
  | keylessLine
deriving DecidableEq, Repr

def ParseError.message : ParseError → String
  | .keylessLine => "index out of bounds: the len is 0 but the index is 0"

/-- Whether a line is keyless. -/
def Layout.isKeyless (layout : Layout) (line : List Char) : Bool :=
  match layout.read line with
  | .error .keyless => true
  | _ => false

/-- Reads every line of a text, unless one is keyless. -/
def parse (layout : Layout) (text : String) : Except ParseError Contents :=
  if (spokenLines text.toList).any fun (_, line) => layout.isKeyless line then
    .error .keylessLine
  else .ok (scan layout text)

/-- The distinct values of a comma separated field. -/
def splitValues (field : String) : List String :=
  (values field.toList).map String.ofList

-- ========================================================= the usual case

/-- Every line of such a layout has a key. -/
def Layout.Keyed : Layout → Prop
  | .fields _ count => count ≠ 0
  | _ => True

theorem Layout.Keyed.isKeyless_eq_false {layout : Layout} (h : layout.Keyed)
    (line : List Char) : layout.isKeyless line = false := by
  have hne : layout.read line ≠ .error .keyless := by
    cases layout with
    | list => simp [Layout.read]
    | keyValues d =>
      simp only [Layout.read]
      split
      · split <;> simp
      · simp
    | fields d count =>
      have hc : count ≠ 0 := h
      simp only [Layout.read]
      split
      · simp [hc]
      · split <;> simp
  unfold Layout.isKeyless
  split
  · contradiction
  · rfl

/-- Where every line has a key, reading never fails. -/
theorem parse_eq_ok {layout : Layout} (h : layout.Keyed) (text : String) :
    parse layout text = .ok (scan layout text) := by
  simp [parse, h.isKeyless_eq_false]

end Warden
