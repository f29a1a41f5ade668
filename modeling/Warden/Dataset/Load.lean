/-
Loading a dataset: from the configured path to the contents of the file.

# Contents

`Dataset.path?` is the file that the configuration names, `fetch` reads
it, and `load` does the same and reports: the start, every invalid line
with its number, how many were skipped, and how many lines said what.
`value_load` states that the report changes nothing.
-/
import Warden.Journal

namespace Warden

namespace Dataset

open Observed

/-- The configured file. An empty path is none. -/
def path? (d : Dataset) (file : Option String) : Except LoadError String :=
  match file with
  | none => .error (.notConfigured d.key)
  | some path => if path = "" then .error (.notConfigured d.key) else .ok path

/-- The path and the contents of the configured file. -/
def fetch (d : Dataset) (files : FileSystem) (file : Option String) :
    Except LoadError (String × Contents) := do
  let path ← d.path? file
  match files.readText path with
  | .error cause => .error (.sourceUnavailable path cause)
  | .ok text => .ok (path, scan d.layout text)

/-- What is told about the contents of a file. -/
def remarks (d : Dataset) (path : String) (c : Contents) : List Note :=
  (c.invalid.map fun line => .event (.invalidLine d path line))
  ++ (if c.invalid.isEmpty then [] else [.measure (.skipped d c.invalid.length)])
  ++ [.event (.parsed d c.records.length c.invalid.length)]

/-- Fetches the configured file and tells about it. -/
def load (d : Dataset) (files : FileSystem) (file : Option String) :
    Observed (Except LoadError (String × Contents)) :=
  match d.path? file with
  | .error e => pure (.error e)
  | .ok path => do
    log (.loading d path)
    match files.readText path with
    | .error cause => pure (.error (.sourceUnavailable path cause))
    | .ok text =>
      let contents := scan d.layout text
      notesOf (d.remarks path contents)
      pure (.ok (path, contents))

/-- Loading gives what fetching gives. -/
@[simp] theorem value_load (d : Dataset) (files : FileSystem) (file : Option String) :
    (d.load files file).value = d.fetch files file := by
  unfold load fetch
  cases d.path? file with
  | error e => rfl
  | ok path =>
    simp only [bind, Except.bind]
    cases files.readText path <;> rfl

/-- Tells whether a load succeeded, and if not, why. -/
def reportReload {α : Type} (d : Dataset) (result : Except LoadError α) : Observed Unit := do
  match result with
  | .ok _ => count (.reloaded d true)
  | .error e => do
    count (.reloaded d false)
    log (.notLoaded d e)

/-- Tells that a dataset of a size is about to be published. -/
def reportLoaded (d : Dataset) (path : String) (entries : Nat) : Observed Unit := do
  log (.loaded d path entries)
  count (.published d entries)

end Dataset

end Warden
