/-
Pieces of a text: what stands between separators, and lines.

# Contents

`pieces d s` cuts `s` at every `d` and keeps the empty pieces;
`tokens d s` trims the pieces and keeps those that are not empty;
`lines s` cuts at newlines, where a newline ends a line and so the last
line may lack one. `firsts` keeps the first of equal list members.
-/
import Warden.Text.Blank

namespace Warden.Text

-- ============================================================ separators

/-- The pieces of a text between separators; one more than there are
separators, empty ones included. -/
def pieces (d : Char) : List Char → List (List Char)
  | [] => [[]]
  | c :: r =>
    if c = d then [] :: pieces d r
    else
      match pieces d r with
      | [] => [[c]]
      | p :: ps => (c :: p) :: ps

/-- The pieces of a text, trimmed, those left empty dropped. -/
def tokens (d : Char) (s : List Char) : List (List Char) :=
  ((pieces d s).map trim).filter (fun p => !p.isEmpty)

theorem pieces_ne_nil (d : Char) (s : List Char) : pieces d s ≠ [] := by
  cases s with
  | nil => simp [pieces]
  | cons c r =>
    unfold pieces
    split
    · simp
    · split <;> simp

-- ================================================================= lines

/-- The lines of a text without their newlines. A carriage return before
a newline stays at the end of its line, where trimming takes it. -/
def lines : List Char → List (List Char)
  | [] => []
  | c :: r =>
    if c = '\n' then [] :: lines r
    else
      match lines r with
      | [] => [[c]]
      | l :: ls => (c :: l) :: ls

-- ======================================================= first occurrences

/-- The members of a list that do not occur before their place. -/
def firsts {α : Type} [BEq α] (l : List α) : List α :=
  l.foldl (fun kept a => if kept.contains a then kept else kept ++ [a]) []

/-- The distinct tokens of a comma separated list. -/
def values (s : List Char) : List (List Char) := firsts (tokens ',' s)

end Warden.Text
