/-
Files, directories and links, and how a path finds one of them.

# Contents

A `FileSystem` says of every place, a list of names from the root, what
is there. What a file holds is kept apart from its names, by the number
of the file, so that a file can have several names. A path is walked step
by step (`FileSystem.step`): each step needs a directory to start from,
and a name must not be too long. Where a step comes upon a symbolic link,
the walk goes on along the path that the link holds, with as many links
left as may still be followed (`walkOver`). So of several things wrong
with a path the first on the way is reported. `readText` reads a whole
file as UTF-8; the causes it fails for are `ReadError`, with their texts.

`absolute` gives a file the name that changes to it are reported under:
the directory it stands in, found, and its own name, which need not
exist yet.

# Changing

Changes go by the same ways, whatever is there (`passed`). Writing
follows a link to the end (`target`), while renaming and removing take
the name in its directory (`entry`). What is written into a file is read
under every name of it.
-/
import Warden.Path
import Warden.Text.Utf8

namespace Warden

open Warden.Path

/-- Why a file cannot be read. -/
inductive ReadError where
  | notFound
  | isDirectory
  | notDirectory
  | nameTooLong
  | tooManyLinks
  /-- The path holds a NUL character. -/
  | nulInPath
  /-- The file is not UTF-8 text. -/
  | notText
  /-- Another cause, in its own words. -/
  | other (text : String)
deriving DecidableEq, Repr

def ReadError.message : ReadError → String
  | .notFound => "No such file or directory (os error 2)"
  | .isDirectory => "Is a directory (os error 21)"
  | .notDirectory => "Not a directory (os error 20)"
  | .nameTooLong => "File name too long (os error 36)"
  | .tooManyLinks => "Too many levels of symbolic links (os error 40)"
  | .nulInPath => "file name contained an unexpected NUL byte"
  | .notText => "stream did not contain valid UTF-8"
  | .other text => text

/-- What is at a place. -/
inductive Node where
  /-- A name of the file of this number. -/
  | file (number : Nat)
  | directory
  /-- A symbolic link, with the path that it holds. -/
  | link (dest : String)
  /-- A file or directory that can be neither read nor entered, and why. -/
  | barred (cause : String)
deriving DecidableEq, Repr

/-- Names from the root down. -/
abbrev Place := List String

/-- How a place is written. -/
def Place.path (p : Place) : String := "/" ++ String.intercalate "/" p

@[ext] structure FileSystem where
  /-- Where relative paths start. -/
  working : Place
  node : Place → Option Node
  /-- What the files hold, by their numbers. -/
  contents : Nat → List UInt8
  /-- The number of the next file that is made. -/
  fresh : Nat
  numbered : ∀ {place : Place} {number : Nat},
    node place = some (.file number) → number < fresh

namespace FileSystem

/-- A file system with an empty working directory and the directories
above it. -/
def empty (working : Place) : FileSystem where
  working
  node p := if p <+: working then some .directory else none
  contents _ := []
  fresh := 0
  numbered h := by split at h <;> cases h

-- ============================================================== walking

/-- The longest name, in bytes. -/
def maxName : Nat := 255

/-- The longest path, in bytes. -/
def maxPath : Nat := 4095

/-- How many symbolic links are followed on one way. -/
def maxLinks : Nat := 40

/-- The path that the symbolic link at a place holds, if there is one. -/
def link? (fs : FileSystem) (place : Place) : Option String :=
  match fs.node place with
  | some (.link dest) => some dest
  | _ => none

/-- Takes one step from a place. -/
def step (fs : FileSystem) (place : Place) (s : Step) : Except ReadError Place :=
  match s with
  | .root => .ok []
  | s =>
    match fs.node place with
    | none => .error .notFound
    | some (.file _) | some (.link _) => .error .notDirectory
    | some (.barred cause) => .error (.other cause)
    | some .directory =>
      match s with
      | .into name =>
        if name.utf8ByteSize > maxName then .error .nameTooLong else .ok (place ++ [name])
      | .up => .ok place.dropLast
      | _ => .ok place

/-- Takes steps from a place as long as they come upon no link. `follow`
says how it goes on with a link: from the place where it stands, along its
path and the steps that are left. -/
def walkWith (fs : FileSystem) (follow : Place → List Step → Except ReadError Place)
    (place : Place) : List Step → Except ReadError Place
  | [] => .ok place
  | s :: rest => do
    let next ← fs.step place s
    match fs.link? next with
    | some dest => follow place (steps dest ++ rest)
    | none => fs.walkWith follow next rest

/-- Takes steps from a place over so many links at most. -/
def walkOver (fs : FileSystem) : Nat → Place → List Step → Except ReadError Place
  | 0 => fs.walkWith fun _ _ => .error .tooManyLinks
  | links + 1 => fs.walkWith (fs.walkOver links)

/-- Where steps start: at the root, or in the working directory. -/
def origin (fs : FileSystem) : List Step → Place
  | .root :: _ => []
  | _ => fs.working

/-- Walks along steps. -/
def walk (fs : FileSystem) (steps : List Step) : Except ReadError Place :=
  fs.walkOver maxLinks (fs.origin steps) steps

/-- The place that a path leads to; whether anything is there is another
question. -/
def locate (fs : FileSystem) (path : String) : Except ReadError Place :=
  if path.toList.contains '\x00' then .error .nulInPath
  else if path = "" then .error .notFound
  else if path.utf8ByteSize > maxPath then .error .nameTooLong
  else fs.walk (steps path)

/-- The bytes of the file at a place. A link is not followed from here. -/
def bytesAt (fs : FileSystem) (place : Place) : Except ReadError (List UInt8) :=
  match fs.node place with
  | none => .error .notFound
  | some .directory => .error .isDirectory
  | some (.link _) => .error .tooManyLinks
  | some (.barred cause) => .error (.other cause)
  | some (.file number) => .ok (fs.contents number)

/-- The bytes of the file that a path names. -/
def readBytes (fs : FileSystem) (path : String) : Except ReadError (List UInt8) := do
  let place ← fs.locate path
  fs.bytesAt place

/-- The text of the file that a path names. -/
def readText (fs : FileSystem) (path : String) : Except ReadError String := do
  let bytes ← fs.readBytes path
  match Text.ofUtf8? bytes with
  | some text => .ok text
  | none => .error .notText

-- ======================================================== absolute names

/-- Whether a step names something that cannot be written in a path. -/
def hasNul : Step → Bool
  | .into name => name.toList.contains '\x00'
  | _ => false

/-- Where steps lead, all links followed, if something is there. No step
at all stays. -/
def canonical (fs : FileSystem) (path : List Step) : Except ReadError Place :=
  if path.any hasNul then .error .nulInPath
  else do
    let place ← fs.walk path
    if (fs.node place).isSome then .ok place else .error .notFound

/-- The name that changes to a file are reported under. A path without a
name of its own, or in a directory that is not there, stays as written. -/
def absolute (fs : FileSystem) (path : String) : String :=
  match parent? path, name? path with
  | some directory, some name =>
    match fs.canonical directory with
    | .ok place => (place ++ [name] : Place).path
    | .error _ => path
  | _, _ => path

-- ================================================= ways, whatever is there

/-- Where a step leads, whatever is there. -/
def move (place : Place) : Step → Place
  | .root => []
  | .here => place
  | .up => place.dropLast
  | .into name => place ++ [name]

/-- The places that steps pass, from where they start to where they end,
as long as they come upon no link; `follow` goes on with a link. -/
def passedWith (fs : FileSystem) (follow : Place → List Step → List Place)
    (place : Place) : List Step → List Place
  | [] => [place]
  | s :: rest =>
    place ::
      match fs.link? (move place s) with
      | some dest => move place s :: follow place (steps dest ++ rest)
      | none => fs.passedWith follow (move place s) rest

/-- The places that steps pass over so many links at most; a link beyond
them is where they end. -/
def passedOver (fs : FileSystem) : Nat → Place → List Step → List Place
  | 0 => fs.passedWith fun _ _ => []
  | links + 1 => fs.passedWith (fs.passedOver links)

/-- The places that steps pass. -/
def passed (fs : FileSystem) (steps : List Step) : List Place :=
  fs.passedOver maxLinks (fs.origin steps) steps

/-- Where steps end, whatever is there. -/
def goal (fs : FileSystem) (steps : List Step) : Place :=
  (fs.passed steps).getLastD (fs.origin steps)

/-- The places on the way of a path, whatever is there. -/
def way (fs : FileSystem) (path : String) : List Place := fs.passed (steps path)

/-- The place that a path leads to, whatever is there. -/
def target (fs : FileSystem) (path : String) : Place := fs.goal (steps path)

/-- The directories and links that the last component of a path is looked
up through. -/
def lookups (fs : FileSystem) (path : String) : List Place := fs.passed (front path)

/-- The entry that a path means, whatever is there: its name in the
directory before it, also if that is a link. -/
def entry (fs : FileSystem) (path : String) : Place :=
  match name? path with
  | some name => fs.goal (front path) ++ [name]
  | none => fs.target path

/-- Whether two places are names of one file. -/
def sameFile (fs : FileSystem) (p q : Place) : Bool :=
  match fs.node p, fs.node q with
  | some (.file m), some (.file n) => m == n
  | _, _ => false

-- ============================================================= changing

/-- Puts something at every one of some places where nothing is. -/
def fill (fs : FileSystem) (places : List Place) (node : Node)
    (hnode : ∀ number, node = .file number → number < fs.fresh) : FileSystem :=
  { fs with
    node := fun p => (fs.node p).or (if p ∈ places then some node else none)
    numbered := by
      intro p number h
      rcases Option.or_eq_some_iff.mp h with hold | ⟨-, hnew⟩
      · exact fs.numbered hold
      · split at hnew
        · exact hnode number (Option.some.inj hnew)
        · cases hnew }

/-- Makes a directory of every one of some places where nothing is. -/
def makeDirectories (fs : FileSystem) (places : List Place) : FileSystem :=
  fs.fill places .directory fun _ h => by cases h

/-- Puts a new file at a place. -/
def create (fs : FileSystem) (place : Place) (bytes : List UInt8) : FileSystem :=
  { fs with
    node := fun p => if p = place then some (.file fs.fresh) else fs.node p
    contents := fun number => if number = fs.fresh then bytes else fs.contents number
    fresh := fs.fresh + 1
    numbered := by
      intro p number h
      split at h
      · cases h
        exact Nat.lt_succ_self _
      · exact Nat.lt_succ_of_lt (fs.numbered h) }

/-- Writes into the file at a place, or makes one there. -/
def store (fs : FileSystem) (place : Place) (bytes : List UInt8) : FileSystem :=
  match fs.node place with
  | some (.file number) =>
    { fs with contents := fun n => if n = number then bytes else fs.contents n }
  | _ => fs.create place bytes

/-- Writes a whole file, in a directory that is made if it is not there. -/
def write (fs : FileSystem) (path : String) (bytes : List UInt8) : FileSystem :=
  (fs.makeDirectories (fs.way path).dropLast).store (fs.target path) bytes

/-- Puts a new file in place of what has this path, also of a link. -/
def replace (fs : FileSystem) (path : String) (bytes : List UInt8) : FileSystem :=
  (fs.makeDirectories (fs.lookups path)).create (fs.entry path) bytes

/-- Makes every directory on the way of a path, also those that the path
leaves again. -/
def makeDirectory (fs : FileSystem) (path : String) : FileSystem :=
  fs.makeDirectories (fs.way path)

/-- Makes a symbolic link, if nothing is there. -/
def makeLink (fs : FileSystem) (path dest : String) : FileSystem :=
  (fs.makeDirectories (fs.lookups path)).fill [fs.entry path] (.link dest) fun _ h => by cases h

/-- Gives a file another name, if nothing is there. -/
def addName (fs : FileSystem) (path dest : String) : FileSystem :=
  match hnode : fs.node (fs.entry path) with
  | some (.file number) =>
    (fs.makeDirectories (fs.lookups dest)).fill [fs.entry dest] (.file number)
      fun _ h => by cases h; exact fs.numbered hnode
  | _ => fs

/-- Removes a file or a link, or a directory with all that is in it. -/
def remove (fs : FileSystem) (path : String) : FileSystem :=
  let place := fs.entry path
  { fs with
    node := fun p => if place <+: p then none else fs.node p
    numbered := by
      intro p number h
      split at h
      · cases h
      · exact fs.numbered h }

/-- Whether renaming does nothing: both paths mean one entry, or are names
of one file. -/
def isIdle (fs : FileSystem) (path dest : String) : Bool :=
  fs.entry path == fs.entry dest || fs.sameFile (fs.entry path) (fs.entry dest)

/-- Moves what is at a path, and all that is in it, to another path. -/
def rename (fs : FileSystem) (path dest : String) : FileSystem :=
  let source := fs.entry path
  let goal := fs.entry dest
  { fs with
    node := fun p =>
      if fs.isIdle path dest then fs.node p
      else if goal <+: p then fs.node (source ++ p.drop goal.length)
      else if source <+: p then none
      else fs.node p
    numbered := by
      intro p number h
      split at h
      · exact fs.numbered h
      · split at h
        · exact fs.numbered h
        · split at h
          · cases h
          · exact fs.numbered h }

end FileSystem

end Warden
