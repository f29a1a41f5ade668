/-
A service: the three policies, and where their settings come from.

# Contents

`Service.create` loads the settings, fixes the digest algorithm and loads
every dataset once. A dataset that does not load is only reported; its
policy starts empty. `Service.refresh` loads the settings anew and
reloads one policy by them. Without settings nothing changes.
-/
import Warden.Config.Decode
import Warden.Policy.Groups
import Warden.Policy.Passwords
import Warden.Policy.Whitelist

namespace Warden

open Observed

/-- Why no service was made. -/
inductive StartupError where
  | config (cause : ConfigError)
  | digest (cause : DigestUnavailable)
deriving DecidableEq, Repr

def StartupError.message : StartupError → String
  | .config cause => "Failed to load configuration: " ++ cause.message
  | .digest cause => "Password policy unavailable: " ++ cause.message

structure Service where
  groups : Groups
  whitelist : Whitelist
  passwords : Passwords
  source : ConfigSource

namespace Service

/-- A service that has loaded nothing. -/
def new (source : ConfigSource) (algorithm : Algorithm) : Service :=
  ⟨.new, .new, .new algorithm, source⟩

-- ================================================================= refresh

/-- The outcome of a reload. -/
def outcomeOf : Except ReloadError Unit → Outcome
  | .ok () => .done
  | .error e => .failed (.reload e)

/-- Whether a configured digest algorithm is not the one in use. -/
def digestDiffers (s : Service) (config : PasswordConfig) : Bool :=
  match Algorithm.ofName? config.digestAlgorithm with
  | .ok algorithm => algorithm != s.passwords.algorithm
  | .error _ => true

/-- Reloads one policy by a configuration. -/
def reload (files : FileSystem) (config : Config) (s : Service) :
    Policy → Observed (Except ReloadError Unit × Service)
  | .groups => do
    let (result, groups) ← s.groups.reload config.groups files
    pure (result, { s with groups })
  | .whitelist => do
    let (result, whitelist) ← s.whitelist.reload config.whitelist files
    pure (result, { s with whitelist })
  | .passwords => do
    let (result, passwords) ← s.passwords.reload config.password files
    pure (result, { s with passwords })

/-- What is told before a policy is reloaded. -/
def remarks (s : Service) (config : Config) : Policy → List Note
  | .passwords =>
    if s.digestDiffers config.password then
      [.event (.digestKept config.password.digestAlgorithm)]
    else []
  | _ => []

/-- Loads the settings anew and reloads one policy by them. -/
def refresh (files : FileSystem) (policy : Policy) (s : Service) :
    Observed (Outcome × Service) :=
  match s.source.load files with
  | .error cause => pure (.failed (.config cause), s)
  | .ok config => do
    notesOf (s.remarks config policy)
    let (result, s) ← s.reload files config policy
    pure (outcomeOf result, s)

-- ================================================================== startup

/-- Loads every dataset for the first time. -/
def initialLoad (files : FileSystem) (config : Config) (s : Service) : Observed Service := do
  let (_, s) ← s.reload files config .groups
  let (_, s) ← s.reload files config .whitelist
  let (_, s) ← s.reload files config .passwords
  pure s

/-- A service whose settings come from a source, after its first loads. -/
def create (files : FileSystem) (source : ConfigSource) :
    Observed (Except StartupError Service) :=
  match source.load files with
  | .error cause => pure (.error (.config cause))
  | .ok config =>
    match Algorithm.ofName? config.password.digestAlgorithm with
    | .error cause => pure (.error (.digest cause))
    | .ok algorithm => do
      let s ← initialLoad files config (.new source algorithm)
      pure (.ok s)

end Service

end Warden
