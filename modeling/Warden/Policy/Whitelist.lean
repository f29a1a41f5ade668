/-
Which addresses users may connect from.

# Contents

While checking is off every user may connect from everywhere. Otherwise
an address on the fixed list is open to all users, and any other address
to the users that the variable list gives it (`judge`). Addresses are
compared as they are written.

# Publication

The switch and the two lists are published one after the other, each at
once. `Whitelist.Publication` is one such step, `publications` are those
of a reload in order, and `reload` applies them all. A list that fails
to load is not published; an empty fixed list counts as a failure, so
that a truncated file does not take trust away, while an empty variable
list is published.
-/
import Warden.Config.Basic
import Warden.Dataset.Load
import Warden.Roster
import Warden.Slot

namespace Warden

open Observed

/-- Why a connection is refused. -/
inductive AccessDenied where
  /-- Neither list has the address. -/
  | unknownAddress (address user : String)
  /-- The address is open to other users only. -/
  | userNotAllowed (address user : String)
deriving DecidableEq, Repr

namespace AccessDenied

def reason : AccessDenied → String
  | unknownAddress .. => "address not whitelisted"
  | userNotAllowed .. => "user not allowed from address"

def message : AccessDenied → String
  | unknownAddress address user =>
    user ++ " from " ++ address ++ " not in white list: address not whitelisted"
  | userNotAllowed address user =>
    user ++ " from " ++ address ++ " not in white list: user not allowed from address"

end AccessDenied

/-- The switch and the two lists. -/
structure Whitelist where
  enabled : Bool
  /-- Addresses open to every user. -/
  fixed : Slot Names
  /-- The users of each other address. -/
  variableList : Slot Roster

namespace Whitelist

/-- Checking is off, and both lists are empty. -/
def new : Whitelist := ⟨false, .empty, .empty⟩

-- ================================================================ checks

/-- The decision, from the switch and the two lists as they were read. -/
def judge (enabled : Bool) (fixed : Names) (variableList : Roster) (address user : String) :
    Except AccessDenied Unit :=
  if !enabled then .ok ()
  else if fixed.contains address then .ok ()
  else
    match variableList.find? address with
    | none => .error (.unknownAddress address user)
    | some users =>
      if users.contains user then .ok () else .error (.userNotAllowed address user)

/-- Whether a user may connect from an address. -/
def check (w : Whitelist) (address user : String) : Except AccessDenied Unit :=
  judge w.enabled w.fixed.current w.variableList.current address user

-- =============================================================== reloads

/-- One step of a reload that readers can see. -/
inductive Publication where
  | enabled (on : Bool)
  | fixed (addresses : Names)
  | variableList (users : Roster)

/-- Takes one step. -/
def publish (w : Whitelist) : Publication → Whitelist
  | .enabled on => { w with enabled := on }
  | .fixed addresses => { w with fixed := (w.fixed.replace addresses).2 }
  | .variableList users => { w with variableList := (w.variableList.replace users).2 }

/-- Reads the fixed list, which must not be empty. -/
def loadFixed (config : WhitelistConfig) (files : FileSystem) :
    Observed (Except LoadError Names) := do
  match ← Dataset.fixedWhitelist.load files config.fixedFile with
  | .error e => pure (.error e)
  | .ok (path, contents) =>
    let addresses : Names := (∅ : Names).insertMany (contents.records.map (·.key))
    if addresses.isEmpty then pure (.error (.emptyFixedWhitelist path))
    else do
      Dataset.fixedWhitelist.reportLoaded path addresses.size
      pure (.ok addresses)

/-- Reads the variable list. -/
def loadVariable (config : WhitelistConfig) (files : FileSystem) :
    Observed (Except LoadError Roster) := do
  match ← Dataset.variableWhitelist.load files config.variableFile with
  | .error e => pure (.error e)
  | .ok (path, contents) =>
    let users := Roster.ofRecords contents.records
    Dataset.variableWhitelist.reportLoaded path users.size
    pure (.ok users)

/-- The steps of a reload with checking on, after what was loaded. -/
def publications (fixed : Except LoadError Names) (variableList : Except LoadError Roster) :
    List Publication :=
  .enabled true
    :: (match fixed with | .ok addresses => [.fixed addresses] | .error _ => [])
    ++ (match variableList with | .ok users => [.variableList users] | .error _ => [])

/-- What failed to load. -/
def failures (fixed : Except LoadError Names) (variableList : Except LoadError Roster) :
    List LoadError :=
  (match fixed with | .ok _ => [] | .error e => [e])
    ++ (match variableList with | .ok _ => [] | .error e => [e])

/-- Sets the switch and, when it is on, publishes both lists. -/
def reload (config : WhitelistConfig) (files : FileSystem) (w : Whitelist) :
    Observed (Except ReloadError Unit × Whitelist) := do
  log (.whitelistConfigured config.enabled)
  if config.enabled then do
    let fixed ← loadFixed config files
    Dataset.fixedWhitelist.reportReload fixed
    let variableList ← loadVariable config files
    Dataset.variableWhitelist.reportReload variableList
    pure (ReloadError.check (failures fixed variableList),
      (publications fixed variableList).foldl publish w)
  else pure (.ok (), w.publish (.enabled false))

end Whitelist

end Warden
