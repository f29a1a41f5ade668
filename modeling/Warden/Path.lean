/-
Paths as they are written, and what they name in common.

# Contents

A path is a text whose pieces stand between slashes. `Path.steps` is the
walk that a path describes, one step after the other. `Path.components`
leaves out what does not matter to the name: repeated and closing
slashes, and every `.` that is not the first step. Two paths are the
same (`Path.same`) when their components are.

A path whose last component is a name has that name (`Path.name?`) and
what stands before it (`Path.parent?`).
-/
import Warden.Text.Pieces

namespace Warden

open Text

namespace Path

/-- One step of a path. -/
inductive Step where
  /-- To the root; only the first step of a path. -/
  | root
  /-- Stay (`.`). -/
  | here
  /-- To the directory above (`..`). -/
  | up
  /-- Into the entry of this name. -/
  | into (name : String)
deriving DecidableEq, Repr

/-- The step that a piece of a path writes. -/
def Step.ofPiece (piece : List Char) : Step :=
  if piece = ['.'] then .here
  else if piece = ['.', '.'] then .up
  else .into (String.ofList piece)

/-- The walk that a path describes. A closing slash asks for a directory,
so it counts as a step that stays. -/
def steps (path : String) : List Step :=
  let chars := path.toList
  let named := ((pieces '/' chars).filter (fun p => !p.isEmpty)).map Step.ofPiece
  let start := if chars.head? = some '/' then [.root] else []
  let close := if chars.getLast? = some '/' then [.here] else []
  start ++ named ++ close

/-- The steps that make up the name: a `.` counts only at the start. -/
def components (path : String) : List Step :=
  match steps path with
  | .here :: r => .here :: r.filter (· ≠ .here)
  | l => l.filter (· ≠ .here)

/-- Whether two paths are spellings of one name. -/
def same (p q : String) : Bool := components p == components q

/-- The last component, if it is a name. -/
def name? (path : String) : Option String :=
  match (components path).getLast? with
  | some (.into name) => some name
  | _ => none

/-- The components before the last one. -/
def front (path : String) : List Step := (components path).dropLast

/-- What stands before the last component. The root and the empty path have
no parent. -/
def parent? (path : String) : Option (List Step) :=
  match (components path).getLast? with
  | none => none
  | some .root => none
  | some _ => some (front path)

end Path

end Warden
