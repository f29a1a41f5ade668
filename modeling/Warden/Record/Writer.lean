/-
Writing dataset text: one line for each entry.

# Contents

`Layout.write` is the line of an entry, and `render` the text of several.
Not every entry can be read back from its line: `Layout.Admits` says of
which a layout keeps all that they hold. Nothing in such an entry looks
like a delimiter, a comma between values, a line end or a comment, and
no blank stands where reading would trim it.
-/
import Warden.Record.Reader

namespace Warden

open Text

namespace Layout

/-- The line of an entry. -/
def write : Layout → Entry → List Char
  | .list, e => e.key
  | .keyValues d, e => e.key ++ d :: List.intercalate [','] e.values
  | .fields d _, e => List.intercalate [d] (e.key :: e.values)

/-- A part of a line that trimming leaves as it is, on one line. -/
def Plain (part : List Char) : Prop := trim part = part ∧ '\n' ∉ part

/-- What can start a line: something, and no comment. -/
def Speaks (key : List Char) : Prop := isSilent key = false

/-- The entries that a layout can write. -/
def Admits : Layout → Entry → Prop
  | .list, e => Plain e.key ∧ Speaks e.key ∧ e.values = []
  | .keyValues d, e =>
    d ≠ ',' ∧ d ≠ '\n' ∧ Plain e.key ∧ Speaks e.key ∧ d ∉ e.key ∧ e.values ≠ [] ∧ e.values.Nodup
      ∧ ∀ v ∈ e.values, v ≠ [] ∧ Plain v ∧ d ∉ v ∧ ',' ∉ v
  | .fields d count, e =>
    d ≠ '\n' ∧ Plain e.key ∧ Speaks e.key ∧ e.values.length + 1 = count
      ∧ (∀ f ∈ e.key :: e.values, Plain f ∧ d ∉ f) ∧ e.values.getLast? ≠ some []

end Layout

/-- The text of some entries. -/
def render (layout : Layout) (entries : List Entry) : String :=
  String.ofList (List.intercalate ['\n'] (entries.map layout.write))

end Warden
