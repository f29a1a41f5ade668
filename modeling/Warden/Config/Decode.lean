/-
A configuration from the tables of a TOML document.

# Contents

A section is usually a table, and then its fields are found by name. It
may also be an array, and then they are found by place, in the order in
which `Config` lists them; a field past the end of the array is missing,
and what is left over is ignored. A date or time is a section without
fields. A missing field has its default, a field of a wrong kind is
refused, and unknown keys are ignored.
-/
import Warden.Config.Validation
import Warden.Toml.Document

namespace Warden

open Toml

namespace Config

/-- Finds the value of a field by its name or by its place. -/
abbrev Fields := String → Nat → Option Value

/-- The fields of a section. -/
def sectionFields : Value → Option Fields
  | .table _ entries => some fun name _ => entries.lookup name
  | .inline entries => some fun name _ => entries.lookup name
  | .array items => some fun _ place => items[place]?
  | .tables items => some fun _ place => items[place]?
  | .datetime _ => some fun _ _ => none
  | _ => none

-- ================================================================= fields

def boolField (fs : Fields) (name : String) (place : Nat) (default : Bool) : Option Bool :=
  match fs name place with
  | none => some default
  | some (.boolean b) => some b
  | some _ => none

def textField (fs : Fields) (name : String) (place : Nat) (default : String) : Option String :=
  match fs name place with
  | none => some default
  | some (.string s) => some s
  | some _ => none

/-- A path is a text, and has no default. -/
def pathField (fs : Fields) (name : String) (place : Nat) : Option (Option String) :=
  match fs name place with
  | none => some none
  | some (.string s) => some (some s)
  | some _ => none

/-- A number is an integer that is not negative. -/
def numberField (fs : Fields) (name : String) (place : Nat) (default : Nat) : Option Nat :=
  match fs name place with
  | none => some default
  | some (.integer (.ofNat n)) => some n
  | some _ => none

-- =============================================================== sections

def groupsSection (fs : Fields) : Option GroupsConfig := do
  return { file := ← pathField fs "file" 0 }

def whitelistSection (fs : Fields) : Option WhitelistConfig := do
  let enabled ← boolField fs "enabled" 0 ({} : WhitelistConfig).enabled
  let fixedFile ← pathField fs "fixed_file" 1
  let variableFile ← pathField fs "variable_file" 2
  return { enabled, fixedFile, variableFile }

def passwordSection (fs : Fields) : Option PasswordConfig := do
  let enabled ← boolField fs "enabled" 0 ({} : PasswordConfig).enabled
  let file ← pathField fs "file" 1
  let digestAlgorithm ←
    textField fs "digest_algorithm" 2 ({} : PasswordConfig).digestAlgorithm
  return { enabled, file, digestAlgorithm }

def adminSection (fs : Fields) : Option AdminConfig := do
  let enabled ← boolField fs "enabled" 0 ({} : AdminConfig).enabled
  let apiKey ← textField fs "api_key" 1 ({} : AdminConfig).apiKey
  let bindAddress ← textField fs "bind_address" 2 ({} : AdminConfig).bindAddress
  return { enabled, apiKey, bindAddress }

def observabilitySection (fs : Fields) : Option ObservabilityConfig := do
  let logLevel ← textField fs "log_level" 0 ({} : ObservabilityConfig).logLevel
  let metricsEnabled ← boolField fs "metrics_enabled" 1 ({} : ObservabilityConfig).metricsEnabled
  let metricsAddress ← textField fs "metrics_address" 2 ({} : ObservabilityConfig).metricsAddress
  return { logLevel, metricsEnabled, metricsAddress }

def watchSection (fs : Fields) : Option WatchConfig := do
  let enabled ← boolField fs "enabled" 0 ({} : WatchConfig).enabled
  let pollInterval ← numberField fs "poll_interval_secs" 1 ({} : WatchConfig).pollInterval
  return { enabled, pollInterval }

/-- A section by its name, its default if it is missing. -/
def sectionOf {α : Type} (root : Table) (name : String) (default : α)
    (decode : Fields → Option α) : Option α :=
  match root.get? name with
  | none => some default
  | some v => (sectionFields v).bind decode

/-- The configuration that a document writes. -/
def ofTable (root : Table) : Option Config := do
  let groups ← sectionOf root "groups" {} groupsSection
  let whitelist ← sectionOf root "whitelist" {} whitelistSection
  let password ← sectionOf root "password" {} passwordSection
  let admin ← sectionOf root "admin" {} adminSection
  let observability ← sectionOf root "observability" {} observabilitySection
  let watch ← sectionOf root "watch" {} watchSection
  return { groups, whitelist, password, admin, observability, watch }

-- ============================================================ whole texts

/-- The configuration that a text writes, if it has no problems. How a
parser describes a text that is none is left open. -/
def ofText (text : String) (describe : String → String := fun _ => "") :
    Except ConfigError Config :=
  match (Document.read text).bind ofTable with
  | none => .error (@ConfigError.malformed (describe text))
  | some c =>
    match c.validate with
    | .ok () => .ok c
    | .error problems => .error (.invalid problems)

/-- The configuration in a file. -/
def ofFile (files : FileSystem) (path : String) (describe : String → String := fun _ => "") :
    Except ConfigError Config :=
  match files.readText path with
  | .error cause => .error (.unreadable cause)
  | .ok text => ofText text describe

end Config

/-- Where settings come from, each time anew. -/
structure ConfigSource where
  /-- The configuration at this moment. -/
  load : FileSystem → Except ConfigError Config

namespace ConfigSource

/-- A file, read again at every load. -/
def file (path : String) (describe : String → String := fun _ => "") : ConfigSource :=
  ⟨fun files => Config.ofFile files path describe⟩

/-- A configuration held in memory. It is taken as it is, also if it has
problems. -/
def fixed (config : Config) : ConfigSource := ⟨fun _ => .ok config⟩

end ConfigSource

end Warden
