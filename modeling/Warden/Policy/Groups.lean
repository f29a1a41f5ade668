/-
Group membership of users.

# Contents

The policy answers from the published roster alone. It has no switch: a
user without an entry has no groups. Reloading publishes the roster of
the configured file as a whole, or leaves the published one in place.
-/
import Warden.Config.Basic
import Warden.Dataset.Load
import Warden.Roster
import Warden.Slot

namespace Warden

open Observed

/-- Who is in which group. -/
structure Groups where
  published : Slot Roster

namespace Groups

/-- No user has a group yet. -/
def new : Groups := ⟨.empty⟩

/-- The groups of a user; none if the user is unknown. -/
def groupsOf (g : Groups) (user : String) : Names :=
  (g.published.current.find? user).getD ∅

/-- Whether a user is in a group. -/
def hasGroup (g : Groups) (user group : String) : Bool :=
  match g.published.current.find? user with
  | some groups => groups.contains group
  | none => false

/-- The published roster, to keep. -/
def snapshot (g : Groups) : Roster := g.published.current

/-- Reads the roster of the configured file. -/
def load (config : GroupsConfig) (files : FileSystem) : Observed (Except LoadError Roster) := do
  match ← Dataset.groups.load files config.file with
  | .error e => pure (.error e)
  | .ok (path, contents) =>
    let roster := Roster.ofRecords contents.records
    Dataset.groups.reportLoaded path roster.size
    pure (.ok roster)

/-- Publishes the roster of the configured file. -/
def reload (config : GroupsConfig) (files : FileSystem) (g : Groups) :
    Observed (Except ReloadError Unit × Groups) := do
  let result ← load config files
  Dataset.groups.reportReload result
  match result with
  | .ok roster => pure (.ok (), ⟨(g.published.replace roster).2⟩)
  | .error e => pure (.error ⟨[e]⟩, g)

end Groups

end Warden
