/-
The client: one request to the administrative interface, and how the
reply is shown.

# Contents

`Invocation.request?` is the request that an invocation sends, as it
arrives: its key must be fit for a header, where blanks around it are
lost, and its address must not be too long. `shown` prints a reply: a
payload over several lines, a text as it is. A reply that is no success
ends the client with an error, also after its payload was printed.

Between client and interface is a `Link`. Where it is not up nothing is
sent, and nothing that is worth keeping is printed.
-/
import Warden.Admin.Router
import Warden.Client.Address
import Warden.Client.Usage

namespace Warden.Client

open Admin Observed Text

/-- Whether the interface can be reached. -/
inductive Link where
  | up
  | unreachable
deriving DecidableEq, Repr

/-- How a run of the client ends. -/
structure Exit where
  code : Nat
  stdout : String
  stderr : String
deriving DecidableEq, Repr

namespace Exit

/-- The end of a run that printed nothing worth keeping. -/
def silent (code : Nat) : Exit := ⟨code, "", ""⟩

/-- The end of a run without an invocation. -/
def ofMisuse : Misuse → Exit
  | .wrong => silent 2
  | .helpAsked => silent 0

end Exit

-- ================================================================ requests

namespace Command

def method : Command → String
  | refresh .. => "POST"
  | _ => "GET"

/-- The path as it is written after the address of the interface. -/
def path : Command → String
  | status => "/admin/status"
  | identifiers => "/admin/refresh"
  | refresh identifier _ => "/admin/refresh/" ++ identifier
  | groups user => "/admin/groups/" ++ user

/-- The arguments of a refresh command. -/
def body : Command → List UInt8
  | refresh _ args =>
    utf8 (Json.object [("args", .list (args.map .text))]).compact
  | _ => []

end Command

/-- Whether a key may be sent. -/
def maySend (key : String) : Bool := (utf8 key).all Request.isVisible

/-- The request that an invocation sends. -/
def Invocation.request? (i : Invocation) : Option Request :=
  if maySend i.key && addressLength i.url i.command.path.toList ≤ Uri.maxLength then
    some {
      method := i.command.method
      path := String.ofList (requested i.command.path.toList)
      headers := [⟨Request.keyHeader, trimmedValue (Request.bearer ++ utf8 i.key)⟩]
      body := i.command.body }
  else none

-- ================================================================= replies

/-- The codes of replies with their names. -/
def codeName : Nat → String
  | 200 => "200 OK"
  | 400 => "400 Bad Request"
  | 401 => "401 Unauthorized"
  | 404 => "404 Not Found"
  | 405 => "405 Method Not Allowed"
  | 413 => "413 Payload Too Large"
  | 500 => "500 Internal Server Error"
  | n => toString n ++ " <unknown status code>"

/-- What is printed of a body. -/
def printed : Body → String
  | .empty => ""
  | .plain text => if text = "" then "" else text ++ "\n"
  | .payload p => p.json.pretty ++ "\n"

/-- How the client ends after a reply. -/
def shown (r : Reply) : Exit :=
  if 200 ≤ r.code ∧ r.code < 300 then ⟨0, printed r.body, ""⟩
  else ⟨1, printed r.body, "Error: Admin API returned status " ++ codeName r.code ++ "\n"⟩

-- ==================================================================== runs

/-- Runs the client for an invocation against a served interface. -/
def Invocation.run (files : FileSystem) (key : String) (s : Service) (i : Invocation)
    (h : Host) : Observed (Exit × Host) :=
  match i.request? with
  | none => pure (.silent 1, h)
  | some request => do
    let (reply, h) ← Admin.answer files key s request h
    pure (shown reply, h)

/-- Runs the client with some arguments. -/
def run (link : Link) (files : FileSystem) (key : String) (s : Service) (args : List String)
    (h : Host) : Observed (Exit × Host) :=
  match Invocation.of args with
  | .error misuse => pure (.ofMisuse misuse, h)
  | .ok invocation =>
    match link with
    | .unreachable => pure (.silent 1, h)
    | .up => invocation.run files key s h

end Warden.Client
