/-
The configuration: its sections, their fields, and their defaults.

# Contents

A `Config` has one section for each policy, one for the administrative
interface, one for reports and one for watching the dataset files. A
field that is not given has its default.
-/

namespace Warden

/-- Where the group mapping is. -/
structure GroupsConfig where
  file : Option String := none
deriving DecidableEq, Repr

/-- Whether addresses are checked, and where the two lists are. -/
structure WhitelistConfig where
  enabled : Bool := false
  fixedFile : Option String := none
  variableFile : Option String := none
deriving DecidableEq, Repr

/-- Whether passwords are checked, where they are, and how they were digested. -/
structure PasswordConfig where
  enabled : Bool := false
  file : Option String := none
  digestAlgorithm : String := "md5"
deriving DecidableEq, Repr

/-- The administrative interface. The default key is a placeholder. -/
structure AdminConfig where
  enabled : Bool := true
  apiKey : String := "CHANGE_ME_IN_PRODUCTION"
  bindAddress : String := "127.0.0.1:8181"
deriving DecidableEq, Repr

/-- Events and measures. -/
structure ObservabilityConfig where
  logLevel : String := "info"
  metricsEnabled : Bool := false
  metricsAddress : String := "127.0.0.1:9181"
deriving DecidableEq, Repr

/-- Watching the dataset files. -/
structure WatchConfig where
  enabled : Bool := false
  /-- Seconds between polls, where polling is needed. -/
  pollInterval : Nat := 2
deriving DecidableEq, Repr

/-- The whole configuration. -/
structure Config where
  groups : GroupsConfig := {}
  whitelist : WhitelistConfig := {}
  password : PasswordConfig := {}
  admin : AdminConfig := {}
  observability : ObservabilityConfig := {}
  watch : WatchConfig := {}
deriving DecidableEq, Repr

end Warden
