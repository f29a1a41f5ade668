/-
The four datasets, and why loading one of them fails.

# Contents

A `Dataset` has a label for reports, a configuration key that names its
file, and a layout. A `LoadError` is why one dataset was not loaded; a
`ReloadError` collects those of one policy. None of them touches what is
published.
-/
import Warden.FileSystem
import Warden.Record.Reader

namespace Warden

/-- What can be loaded from a file. -/
inductive Dataset where
  | groups
  | fixedWhitelist
  | variableWhitelist
  | passwords
deriving DecidableEq, Repr

namespace Dataset

/-- The name in events and measures. -/
def label : Dataset → String
  | groups => "groups"
  | fixedWhitelist => "fixed_whitelist"
  | variableWhitelist => "variable_whitelist"
  | passwords => "passwords"

/-- The configuration key of the file. -/
def key : Dataset → String
  | groups => "groups.file"
  | fixedWhitelist => "whitelist.fixed_file"
  | variableWhitelist => "whitelist.variable_file"
  | passwords => "password.file"

/-- How the file lays out its lines. -/
def layout : Dataset → Layout
  | groups => .keyValues '='
  | fixedWhitelist => .list
  | variableWhitelist => .keyValues ':'
  | passwords => .fields ':' 3

/-- No dataset's layout has keyless lines. -/
theorem keyed_layout (d : Dataset) : d.layout.Keyed := by
  cases d <;> simp [layout, Layout.Keyed]

end Dataset

/-- Why a dataset was not loaded. -/
inductive LoadError where
  /-- The configuration names no file. -/
  | notConfigured (key : String)
  /-- The file cannot be read. -/
  | sourceUnavailable (path : String) (cause : ReadError)
  /-- A fixed whitelist without any address. -/
  | emptyFixedWhitelist (path : String)
deriving DecidableEq, Repr

def LoadError.message : LoadError → String
  | .notConfigured key => key ++ " not configured"
  | .sourceUnavailable path cause => "cannot read " ++ path ++ ": " ++ cause.message
  | .emptyFixedWhitelist path =>
    "fixed whitelist " ++ path ++ " is empty, keeping previous entries"

/-- The datasets of a policy that were not loaded, with the reasons. -/
structure ReloadError where
  failures : List LoadError
deriving DecidableEq, Repr

def ReloadError.message (e : ReloadError) : String :=
  "Reload failed: " ++ String.intercalate ", " (e.failures.map LoadError.message)

/-- Success if nothing failed. -/
def ReloadError.check (failures : List LoadError) : Except ReloadError Unit :=
  if failures.isEmpty then .ok () else .error ⟨failures⟩

end Warden
