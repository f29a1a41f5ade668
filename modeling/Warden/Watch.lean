/-
Watching the dataset files: a change to one runs its refresh command.

# Contents

`watchTargets` lists the files that a configuration names, each with the
identifier that reloads it, and `affected` says which identifiers some
changed paths concern. Files are watched through their directories,
since they are often replaced as a whole; so every directory must be
there at the start (`watchedDirectories`), the files need not.

`watchChanges` makes changes one after the other. After each one it runs
the commands of the places that were created, written or renamed
(`Change.touched`), as the watched directories report them. A file that
is written through a symbolic link is written where it is, and one with
several names under the name that was used. A removal, a read and a
renaming to the same name concern nobody.

A watch holds on to the directory, not to its name (`Watched`): moved
elsewhere, it goes on to report under the name it had at the start, and
a new directory of that name is not watched.
-/
import Warden.Host

namespace Warden

open Observed Warden.Path

/-- A file to watch, and the command that a change to it runs. -/
structure WatchTarget where
  path : String
  identifier : String
deriving DecidableEq, Repr

/-- The target of a configured file. -/
def watchTarget? (files : FileSystem) (file : Option String) (policy : Policy) :
    Option WatchTarget :=
  match file with
  | none => none
  | some path => if path = "" then none else some ⟨files.absolute path, policy.identifier⟩

/-- The files that a configuration names. -/
def watchTargets (files : FileSystem) (config : Config) : List WatchTarget :=
  [(config.groups.file, Policy.groups),
    (config.whitelist.fixedFile, Policy.whitelist),
    (config.whitelist.variableFile, Policy.whitelist),
    (config.password.file, Policy.passwords)].filterMap
      fun (file, policy) => watchTarget? files file policy

/-- The identifiers of the targets among some paths, in ascending order,
each once. -/
def affected (targets : List WatchTarget) (paths : List String) : List String :=
  ((∅ : Std.TreeSet String).insertMany
    (paths.flatMap fun path =>
      (targets.filter fun t => same t.path path).map (·.identifier))).toList

-- ============================================================ directories

/-- No file of this directory can be watched. -/
structure WatchError where
  directory : List Step
deriving DecidableEq, Repr

/-- How the steps to a directory are written. -/
def written (steps : List Step) : String :=
  let name : Step → String
    | .root => ""
    | .here => "."
    | .up => ".."
    | .into n => n
  match steps with
  | [.root] => "/"
  | steps => String.intercalate "/" (steps.map name)

/-- Whether a place can be watched. -/
def FileSystem.canWatch (files : FileSystem) (place : Place) : Bool :=
  match files.node place with
  | some (.barred _) => false
  | _ => true

/-- The directories of some targets, as they are named and where they are.
All of them must be there. -/
def watchedDirectories (files : FileSystem) (targets : List WatchTarget) :
    Except WatchError (List (List Step × Place)) :=
  (Text.firsts (targets.filterMap fun t => parent? t.path)).mapM fun directory =>
    match files.canonical directory with
    | .ok place => if files.canWatch place then .ok (directory, place) else .error ⟨directory⟩
    | .error _ => .error ⟨directory⟩

-- ================================================================= changes

/-- What happens to a file or directory. -/
inductive Change where
  | write (path : String) (bytes : List UInt8)
  /-- Another file is put in place of this one. -/
  | replace (path : String) (bytes : List UInt8)
  | rename (path dest : String)
  | remove (path : String)
  | makeDirectory (path : String)
  /-- A symbolic link is made. -/
  | makeLink (path dest : String)
  /-- A file gets another name. -/
  | addName (path dest : String)
  | read (path : String)

namespace Change

/-- Makes the change. -/
def apply (files : FileSystem) : Change → FileSystem
  | write path bytes => files.write path bytes
  | replace path bytes => files.replace path bytes
  | rename path dest => files.rename path dest
  | remove path => files.remove path
  | makeDirectory path => files.makeDirectory path
  | makeLink path dest => files.makeLink path dest
  | addName path dest => files.addName path dest
  | read _ => files

/-- Those of some places where nothing is. -/
def missing (files : FileSystem) (places : List Place) : List Place :=
  (Text.firsts places).filter fun p => (files.node p).isNone

/-- The places that the change creates, writes or renames. -/
def touched (files : FileSystem) : Change → List Place
  | write path _ => missing files (files.way path).dropLast ++ [files.target path]
  | replace path _ => missing files (files.lookups path) ++ [files.entry path]
  | rename path dest =>
    if files.isIdle path dest then [] else [files.entry path, files.entry dest]
  | makeDirectory path => missing files (files.way path)
  | makeLink path _ => missing files (files.lookups path ++ [files.entry path])
  | addName path dest =>
    match files.node (files.entry path) with
    | some (.file _) => missing files (files.lookups dest ++ [files.entry dest])
    | _ => []
  | remove _ => []
  | read _ => []

end Change

/-- A watched directory. -/
structure Watched where
  /-- Where it is. -/
  place : Place
  /-- Where it was at the start; what happens in it is reported as
  happening there. -/
  name : Place
deriving DecidableEq, Repr

namespace Watched

/-- How a place is reported, if it is the directory itself or an entry of
it. -/
def report? (w : Watched) (place : Place) : Option Place :=
  if place = w.place then some w.name
  else match place.getLast? with
    | some entry => if place.dropLast = w.place then some (w.name ++ [entry]) else none
    | none => none

/-- The directory after a change, if it is still there. -/
def after (files : FileSystem) (change : Change) (w : Watched) : Option Watched :=
  match change with
  | .rename path dest =>
    let source := files.entry path
    let goal := files.entry dest
    if files.isIdle path dest then some w
    else if source <+: w.place then some { w with place := goal ++ w.place.drop source.length }
    else if goal <+: w.place then none
    else some w
  | .remove path | .replace path _ => if files.entry path <+: w.place then none else some w
  | _ => some w

end Watched

-- ================================================================ watching

/-- Runs the command of an identifier because a file changed. -/
def refreshChanged (files : FileSystem) (identifier : String) (h : Host) :
    Observed (Response × Host) := do
  log (.fileChanged identifier)
  let (response, h) ← h.dispatch files identifier []
  notesOf (if response.isSuccess then []
    else [.event (.changeNotLoaded identifier response.message)])
  pure (response, h)

/-- Runs the commands of identifiers in order. -/
def refreshEach (files : FileSystem) : List String → Host →
    Observed (List (String × Response) × Host)
  | [], h => pure ([], h)
  | identifier :: rest, h => do
    let (response, h) ← refreshChanged files identifier h
    let (responses, h) ← refreshEach files rest h
    pure ((identifier, response) :: responses, h)

/-- The identifiers that a change concerns, in the order of what it touches. -/
def concerned (targets : List WatchTarget) (watched : List Watched) (files : FileSystem)
    (change : Change) : List String :=
  (change.touched files).flatMap fun place =>
    affected targets ((watched.filterMap (·.report? place)).map Place.path)

/-- Makes changes one after the other, each followed by the commands that
it concerns. -/
def watchChanges (targets : List WatchTarget) :
    List Change → List Watched → FileSystem → Host →
      Observed (List (String × Response) × FileSystem × Host)
  | [], _, files, h => pure ([], files, h)
  | change :: rest, watched, files, h => do
    let identifiers := concerned targets watched files change
    let watched := watched.filterMap (·.after files change)
    let files := change.apply files
    let (responses, h) ← refreshEach files identifiers h
    let (later, files, h) ← watchChanges targets rest watched files h
    pure (responses ++ later, files, h)

/-- Watches the files that a configuration names while changes are made. -/
def watch (config : Config) (changes : List Change) (files : FileSystem) (h : Host) :
    Observed (Except WatchError (List (String × Response)) × FileSystem × Host) :=
  let targets := watchTargets files config
  match watchedDirectories files targets with
  | .error e => pure (.error e, files, h)
  | .ok directories => do
    notesOf (directories.map fun (d, _) => .event (.watching (written d)))
    let watched := (Text.firsts (directories.map (·.2))).map fun place => ⟨place, place⟩
    let (responses, files, h) ← watchChanges targets changes watched files h
    pure (.ok responses, files, h)

/-- The identifiers whose commands ran, in ascending order, each once. -/
def dispatched (responses : List (String × Response)) : List String :=
  ((∅ : Std.TreeSet String).insertMany (responses.map (·.1))).toList

/-- The commands that failed with their messages, in ascending order,
each pair once. -/
def failed (responses : List (String × Response)) : List (String × String) :=
  let failures := (responses.filter fun r => !r.2.isSuccess).map fun r => (r.1, r.2.message)
  (Text.firsts failures).mergeSort fun a b => a.1 < b.1 || (a.1 == b.1 && a.2 ≤ b.2)

end Warden
