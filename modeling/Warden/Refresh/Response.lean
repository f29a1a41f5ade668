/-
How a refresh ends: what a handler did, and the response to the command.

# Contents

A handler that runs has one of three outcomes: it is done, it failed for
a stated reason, or it broke off (`Outcome.panicked`), with or without a
text. A `Response` has a status, zero for success and minus one for
everything else, and a message. That no handler was registered is known
apart from the message, which may read like anything.
-/
import Warden.Config.Validation
import Warden.Dataset

namespace Warden

/-- The three policies that a service answers from. -/
inductive Policy where
  | groups
  | whitelist
  | passwords
deriving DecidableEq, Repr

/-- The identifier of the command that reloads a policy. -/
def Policy.identifier : Policy → String
  | .groups => "REFRESH_USER_GROUPS"
  | .whitelist => "REFRESH_WHITE_LIST"
  | .passwords => "REFRESH_PASSWORD"

/-- No two policies share an identifier. -/
theorem Policy.identifier_inj {p q : Policy} : p.identifier = q.identifier ↔ p = q := by
  cases p <;> cases q <;> simp [identifier]

/-- All policies, in the order in which a service sets them up. -/
def Policy.all : List Policy := [.groups, .whitelist, .passwords]

/-- Why a refresh failed. -/
inductive RefreshError where
  /-- There is no configuration to reload by. -/
  | config (cause : ConfigError)
  /-- Datasets were not loaded. -/
  | reload (cause : ReloadError)
deriving DecidableEq, Repr

def RefreshError.message : RefreshError → String
  | .config cause => "Configuration unavailable: " ++ cause.message
  | .reload cause => cause.message

/-- How the run of a handler ends. -/
inductive Outcome where
  | done
  | failed (cause : RefreshError)
  /-- The handler broke off, perhaps with a text. -/
  | panicked (text : Option String)
deriving DecidableEq, Repr

/-- What is said about a handler that broke off. -/
def panicMessage (text : Option String) : String := text.getD "handler panicked"

/-- What a refresh command comes back with. -/
structure Response where
  status : Int
  message : String
  /-- No handler was registered under the identifier. -/
  unknown : Bool
deriving DecidableEq, Repr

namespace Response

def success : Response := ⟨0, "Success", false⟩

def failure (message : String) : Response := ⟨-1, message, false⟩

def unknownIdentifier (identifier : String) : Response :=
  { failure ("Invalid identifier: " ++ identifier) with unknown := true }

/-- The response to a command whose handler ran. -/
def ofOutcome : Outcome → Response
  | .done => success
  | .failed cause => failure ("Refresh failed: " ++ cause.message)
  | .panicked text => failure ("Refresh failed: " ++ panicMessage text)

def isSuccess (r : Response) : Bool := r.status == 0

/-- A handler's response is a success exactly if the handler was done. -/
theorem isSuccess_ofOutcome (o : Outcome) : (ofOutcome o).isSuccess = true ↔ o = .done := by
  cases o <;> simp [ofOutcome, isSuccess, success, failure]

end Response

end Warden
