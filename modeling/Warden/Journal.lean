/-
What is reported while the program works: events, measures and calls.

# Contents

An `Event` is one thing worth telling, with its level, its message and
its fields. A `Measure` is one change to a counter or a gauge. A `Note`
is either, or the run of a registered callback. `Observed α` is a value
together with the notes made on the way to it, in order; as a monad it
joins the notes of one step to those of the next.

Nothing ever depends on the notes, so that `value` of a sequence of
steps is the sequence of their values (`value_bind`).
-/
import Warden.Refresh.Response

namespace Warden

open Text

-- ================================================================ events

inductive Level where
  | error
  | warn
  | info
  | debug
deriving DecidableEq, Repr

def Level.label : Level → String
  | .error => "ERROR"
  | .warn => "WARN"
  | .info => "INFO"
  | .debug => "DEBUG"

/-- The value of an event's field. -/
inductive FieldValue where
  | text (s : String)
  | number (n : Int)
  | flag (b : Bool)
deriving DecidableEq, Repr

/-- One thing worth telling. -/
inductive Event where
  | loading (dataset : Dataset) (path : String)
  | invalidLine (dataset : Dataset) (path : String) (line : InvalidLine)
  | parsed (dataset : Dataset) (records invalid : Nat)
  | loaded (dataset : Dataset) (path : String) (entries : Nat)
  | notLoaded (dataset : Dataset) (cause : LoadError)
  | whitelistConfigured (enabled : Bool)
  | passwordsConfigured (enabled : Bool)
  | digestKept (configured : String)
  | registering (identifier : String)
  | unknownIdentifier (identifier : String)
  | refreshStarted (identifier : String) (args : List String)
  | refreshFailed (identifier : String) (cause : RefreshError)
  | refreshPanicked (identifier : String) (message : String)
  | refreshFinished (identifier : String) (status : Int)
  | initialized (identifiers : List String)
  | unregistered
  | watching (directory : String)
  | fileChanged (identifier : String)
  | changeNotLoaded (identifier : String) (message : String)
  | rejected (path : String)
  | listening (address : String)
  | stopped
deriving DecidableEq, Repr

namespace Event

def level : Event → Level
  | loading .. | loaded .. | whitelistConfigured .. | passwordsConfigured .. => .info
  | refreshStarted .. | refreshFinished .. | initialized .. | unregistered => .info
  | watching .. | fileChanged .. | listening .. | stopped => .info
  | invalidLine .. | digestKept .. | unknownIdentifier .. | rejected .. => .warn
  | parsed .. | registering .. => .debug
  | notLoaded .. | refreshFailed .. | refreshPanicked .. | changeNotLoaded .. => .error

def message : Event → String
  | loading .. => "Loading dataset"
  | invalidLine .. => "Ignoring invalid line"
  | parsed .. => "Parsed dataset"
  | loaded .groups .. => "Loaded group mapping"
  | loaded .fixedWhitelist .. => "Loaded fixed whitelist"
  | loaded .variableWhitelist .. => "Loaded variable whitelist"
  | loaded .passwords .. => "Loaded passwords"
  | notLoaded .groups _ => "Failed to reload group mapping, keeping current mapping"
  | notLoaded .fixedWhitelist _ =>
    "Failed to reload fixed whitelist, keeping current entries"
  | notLoaded .variableWhitelist _ =>
    "Failed to reload variable whitelist, keeping current entries"
  | notLoaded .passwords _ => "Failed to reload passwords, keeping current entries"
  | whitelistConfigured _ => "Whitelist checking configured"
  | passwordsConfigured _ => "Password checking configured"
  | digestKept _ => "Digest algorithm changes take effect on restart only"
  | registering _ => "Registering refresh handler"
  | unknownIdentifier _ => "Refresh requested for unknown identifier"
  | refreshStarted .. => "Refresh started"
  | refreshFailed .. => "Refresh failed"
  | refreshPanicked .. => "Refresh handler panicked"
  | refreshFinished .. => "Refresh finished"
  | initialized _ => "Gatekeeper initialized"
  | unregistered => "Gatekeeper refresh handlers unregistered"
  | watching _ => "Dataset watcher started"
  | fileChanged _ => "Dataset file change detected, reloading..."
  | changeNotLoaded .. => "Reload after file change failed. Keeping current snapshot."
  | rejected _ => "Rejected unauthenticated admin request"
  | listening _ => "Admin API listening"
  | stopped => "Admin API stopped"

def fields : Event → List (String × FieldValue)
  | loading dataset path => [("dataset", .text dataset.label), ("path", .text path)]
  | invalidLine dataset path line =>
    [("dataset", .text dataset.label), ("path", .text path), ("line_no", .number line.lineNo),
      ("fields", .number line.fields), ("line", .text line.line)]
  | parsed dataset records invalid =>
    [("dataset", .text dataset.label), ("records", .number records), ("invalid", .number invalid)]
  | loaded dataset path entries =>
    let counted := match dataset with
      | .groups | .passwords => "users"
      | .fixedWhitelist | .variableWhitelist => "addresses"
    [("path", .text path), (counted, .number entries)]
  | notLoaded _ cause => [("error", .text cause.message)]
  | whitelistConfigured enabled => [("enabled", .flag enabled)]
  | passwordsConfigured enabled => [("enabled", .flag enabled)]
  | digestKept configured => [("configured", .text configured)]
  | registering identifier => [("identifier", .text identifier)]
  | unknownIdentifier identifier => [("identifier", .text identifier)]
  | refreshStarted identifier args =>
    [("identifier", .text identifier), ("args", .text (quotedList args))]
  | refreshFailed identifier cause =>
    [("identifier", .text identifier), ("error", .text cause.message)]
  | refreshPanicked identifier message =>
    [("identifier", .text identifier), ("panic", .text message)]
  | refreshFinished identifier status =>
    [("identifier", .text identifier), ("status", .number status)]
  | initialized identifiers => [("identifiers", .text (quotedList identifiers))]
  | unregistered => []
  | watching directory => [("path", .text (quoted directory))]
  | fileChanged identifier => [("identifier", .text identifier)]
  | changeNotLoaded identifier message =>
    [("identifier", .text identifier), ("response", .text message)]
  | rejected path => [("path", .text path)]
  | listening address => [("address", .text address)]
  | stopped => []

end Event

-- ================================================================= notes

/-- One change to a counter or a gauge. -/
inductive Measure where
  /-- A dataset was loaded, or was not. -/
  | reloaded (dataset : Dataset) (success : Bool)
  /-- A dataset of this size was published. -/
  | published (dataset : Dataset) (entries : Nat)
  /-- Lines of a dataset were skipped. -/
  | skipped (dataset : Dataset) (lines : Nat)
  /-- A refresh command came back; without an identifier, no handler was
  registered. -/
  | refreshed (identifier : Option String) (status : Int)
deriving DecidableEq, Repr

/-- Something reported. -/
inductive Note where
  | event (e : Event)
  | measure (m : Measure)
  /-- The callback of a registration ran. -/
  | call (registration : Nat) (args : List String)
deriving DecidableEq, Repr

/-- A value, and what was reported on the way to it. -/
structure Observed (α : Type) where
  value : α
  notes : List Note
deriving DecidableEq, Repr

namespace Observed

variable {α β : Type}

instance : Monad Observed where
  pure a := ⟨a, []⟩
  bind x f := ⟨(f x.value).value, x.notes ++ (f x.value).notes⟩

@[simp] theorem value_pure (a : α) : (pure a : Observed α).value = a := rfl

@[simp] theorem notes_pure (a : α) : (pure a : Observed α).notes = [] := rfl

@[simp] theorem value_bind (x : Observed α) (f : α → Observed β) :
    (x >>= f).value = (f x.value).value := rfl

@[simp] theorem notes_bind (x : Observed α) (f : α → Observed β) :
    (x >>= f).notes = x.notes ++ (f x.value).notes := rfl

@[ext] theorem ext {x y : Observed α} (hv : x.value = y.value) (hn : x.notes = y.notes) :
    x = y := by
  cases x; cases y; simp_all

/-- Notes are joined in order, however the steps are grouped. -/
instance : LawfulMonad Observed :=
  LawfulMonad.mk' Observed
    (fun _ => Observed.ext rfl (List.append_nil _))
    (fun _ _ => Observed.ext rfl (List.nil_append _))
    (fun _ _ _ => Observed.ext rfl (List.append_assoc _ _ _))

@[simp] theorem value_map (f : α → β) (x : Observed α) : (f <$> x).value = f x.value := rfl

@[simp] theorem notes_map (f : α → β) (x : Observed α) : (f <$> x).notes = x.notes :=
  List.append_nil _

/-- Reports one thing. -/
def note (n : Note) : Observed Unit := ⟨(), [n]⟩

/-- Tells an event. -/
def log (e : Event) : Observed Unit := note (.event e)

/-- Changes a counter or a gauge. -/
def count (m : Measure) : Observed Unit := note (.measure m)

/-- Reports several things in order. -/
def notesOf (ns : List Note) : Observed Unit := ⟨(), ns⟩

end Observed

end Warden
