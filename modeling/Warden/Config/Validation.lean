/-
What a configuration must satisfy beyond its form.

# Contents

`Config.problems` lists everything wrong with a configuration, in a
fixed order, and `Config.validate` accepts a configuration without
problems. A section that is switched off is not looked at, except for
the digest algorithm, which is fixed when the service starts.
-/
import Warden.Config.Basic
import Warden.Digest
import Warden.FileSystem
import Warden.SocketAddress

namespace Warden

open Text

/-- Something wrong with a configuration. -/
inductive ValidationError where
  | invalidAddress (field value : String)
  | emptyApiKey
  | unsupportedDigest (name : String)
  | zeroPollInterval
deriving DecidableEq, Repr

def ValidationError.message : ValidationError → String
  | .invalidAddress field value => field ++ ": invalid socket address " ++ quoted value
  | .emptyApiKey => "admin.api_key must not be empty when the admin API is enabled"
  | .unsupportedDigest name =>
    "password.digest_algorithm: unsupported algorithm " ++ quoted name
  | .zeroPollInterval => "watch.poll_interval_secs must be greater than zero"

/-- Why no configuration was obtained. -/
inductive ConfigError where
  /-- The file cannot be read. -/
  | unreadable (cause : ReadError)
  /-- The text is no configuration, and what the parser says about it. -/
  | malformed {detail : String}
  /-- The configuration has problems; usually some. -/
  | invalid (problems : List ValidationError)
deriving DecidableEq, Repr

def ConfigError.message : ConfigError → String
  | .unreadable cause => "IO error: " ++ cause.message
  | @malformed detail => "Parse error: " ++ detail
  | .invalid problems =>
    "Validation failed: " ++ String.intercalate ", " (problems.map ValidationError.message)

namespace Config

/-- The problem of a field that should hold a socket address. -/
def addressProblem (field value : String) : List ValidationError :=
  if (SocketAddress.ofText? value).isSome then [] else [.invalidAddress field value]

/-- A key of blanks alone is empty. -/
def keyProblem (key : String) : List ValidationError :=
  if trim key.toList = [] then [.emptyApiKey] else []

def digestProblem (name : String) : List ValidationError :=
  match Algorithm.ofName? name with
  | .ok _ => []
  | .error _ => [.unsupportedDigest name]

/-- Everything wrong with a configuration. -/
def problems (c : Config) : List ValidationError :=
  (if c.admin.enabled then
    addressProblem "admin.bind_address" c.admin.bindAddress ++ keyProblem c.admin.apiKey
    else [])
  ++ (if c.observability.metricsEnabled then
    addressProblem "observability.metrics_address" c.observability.metricsAddress
    else [])
  ++ digestProblem c.password.digestAlgorithm
  ++ (if c.watch.enabled ∧ c.watch.pollInterval = 0 then [.zeroPollInterval] else [])

/-- Accepts a configuration without problems. -/
def validate (c : Config) : Except (List ValidationError) Unit :=
  if c.problems.isEmpty then .ok () else .error c.problems

end Config

end Warden
