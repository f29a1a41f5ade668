/-
A session: files, a registry, at most one service, and what was noticed
while they were at work.

# Contents

Registrations and commands go to the session's own host. A service that
is started there stays there; when the session takes a new registry, the
service that was at work keeps the old one (`Placement.apart`) until
another takes its place. Every step turns its notes over to the session
(`Session.noting`), which sorts them into calls, events and measures.
-/
import Warden.Client
import Warden.Metrics
import Warden.Watch

namespace Warden

/-- Where the service at work is. -/
inductive Placement where
  /-- On the session's host. -/
  | here (number : Nat)
  /-- On a host of its own. -/
  | apart (host : Host) (number : Nat)

structure Session where
  files : FileSystem
  host : Host := .new
  service : Option Placement := none
  /-- The key of the administrative interface. -/
  key : String := ""
  /-- Rosters that were kept. -/
  held : List Roster := []
  /-- How many callbacks were registered. -/
  registrations : Nat := 0
  /-- The callbacks that ran, with their arguments. -/
  calls : List (Nat × List String) := []
  events : List Event := []
  metrics : Metrics := {}

namespace Session

/-- A session with nothing in its working directory. -/
def new (working : Place) : Session := { files := .empty working }

-- =================================================================== notes

/-- Takes up what was noted on the way to a value. -/
def noting {α : Type} (x : Observed α) (s : Session) : α × Session :=
  (x.value,
    { s with
      calls := s.calls ++ x.notes.filterMap fun
        | .call number args => some (number, args)
        | _ => none
      events := s.events ++ x.notes.filterMap fun
        | .event e => some e
        | _ => none
      metrics := s.metrics.recordAll x.notes })

/-- The callbacks that ran since they were last asked for. -/
def takeCalls (s : Session) : List (Nat × List String) × Session :=
  (s.calls, { s with calls := [] })

/-- The events since they were last asked for. -/
def takeEvents (s : Session) : List Event × Session := (s.events, { s with events := [] })

/-- Forgets all that was noticed. -/
def unnoticed (s : Session) : Session := { s with calls := [], events := [], metrics := {} }

-- ============================================================= the own host

/-- Works on the session's host. -/
def onHost {α : Type} (work : Host → Observed (α × Host)) (s : Session) : α × Session :=
  let ((answer, host), s) := s.noting (work s.host)
  (answer, { s with host })

/-- Registers a callback; its number comes back. -/
def register (identifier : String) (behaviour : Invocation → Outcome) (s : Session) :
    Nat × Session :=
  let number := s.registrations
  let (host, s) := s.noting (s.host.register identifier number behaviour)
  (number, { s with host, registrations := number + 1 })

def unregister (identifier : String) (s : Session) : Bool × Session :=
  let (found, host) := s.host.unregister identifier
  (found, { s with host })

def dispatch (identifier : String) (args : List String) (s : Session) : Response × Session :=
  s.onHost (Host.dispatch s.files identifier args)

-- ============================================================== the service

/-- The host, the number and the service at work. -/
def working (s : Session) : Option (Host × Nat × Service) := do
  let (host, number) := match ← s.service with
    | .here number => (s.host, number)
    | .apart host number => (host, number)
  let service ← host.service? number
  return (host, number, service)

/-- Puts back the host of the service at work. -/
def withWorking (host : Host) (s : Session) : Session :=
  match s.service with
  | some (.apart _ number) => { s with service := some (.apart host number) }
  | _ => { s with host }

/-- Works with the service, if there is one. -/
def onService {α : Type} (work : Host → Nat → Service → Observed (α × Host)) (s : Session) :
    Option (α × Session) := do
  let (host, number, service) ← s.working
  let ((answer, host), s) := s.noting (work host number service)
  return (answer, s.withWorking host)

/-- Takes a new registry; the service at work keeps its own. -/
def withNewRegistry (s : Session) : Session :=
  match s.service with
  | some (.here number) => { s with host := .new, service := some (.apart s.host number) }
  | _ => { s with host := .new }

/-- Starts a service in place of the one at work. Where that fails, the
one at work stays. -/
def start (source : ConfigSource) (keepRegistry : Bool) (s : Session) :
    Except StartupError Status × Session :=
  let s := if keepRegistry then s else s.withNewRegistry
  let (result, s) := s.onHost (Host.start s.files source)
  match result with
  | .error e => (.error e, s)
  | .ok (number, service) =>
    let key := match source.load s.files with
      | .ok config => config.admin.apiKey
      | .error _ => s.key
    (.ok (s.host.status service), { s with service := some (.here number), key })

def status (s : Session) : Option Status :=
  s.working.map fun (host, _, service) => host.status service

def reloadAll (s : Session) : Option (List (String × Response) × Session) :=
  s.onService fun host _ _ => host.reloadAll s.files

def shutdown (s : Session) : Option (Unit × Session) :=
  s.onService fun host _ _ => do
    let host ← host.shutdown
    pure ((), host)

/-- Reloads one policy by a configuration given here. -/
def reload (config : Config) (policy : Policy) (s : Session) :
    Option (Except ReloadError Unit × Session) :=
  s.onService fun host number service => do
    let (result, service) ← service.reload s.files config policy
    pure (result, host.withService number service)

/-- Keeps the published roster; its number comes back. -/
def hold (s : Session) : Option (Nat × Session) := do
  let (_, _, service) ← s.working
  return (s.held.length, { s with held := s.held ++ [service.groups.snapshot] })

-- ================================================================== watching

/-- Watches the files of a configuration while changes are made, and
forgets what was noticed meanwhile. -/
def watch (config : Config) (changes : List Change) (s : Session) :
    Except WatchError (List (String × Response)) × Session :=
  let ((result, files, host), s) := s.noting (Warden.watch config changes s.files s.host)
  (result, { s.unnoticed with files, host })

-- ========================================================== administration

/-- Answers one request, for the session's key or another one. -/
def answer (key : Option String) (request : Admin.Request) (s : Session) :
    Option (Admin.Reply × Session) :=
  s.onService fun host _ service =>
    Admin.answer s.files (key.getD s.key) service request host

/-- What a caller of the served interface does. -/
inductive Caller where
  /-- Sends a request, which need not be well formed. -/
  | sender (method target : String) (headers : List (String × List UInt8)) (body : List UInt8)
  /-- Runs the client. -/
  | client (args : List String)

/-- How a caller of the served interface is answered. -/
inductive Served where
  | reply (r : Admin.Reply)
  | exit (e : Client.Exit)
  /-- A request found no way to the interface. -/
  | unreachable

/-- The arguments that tell the client where the interface is. -/
def clientArgs (args : List String) : List String := "--url" :: "http://127.0.0.1" :: args

/-- Serves one caller. -/
def serveOne (link : Client.Link) (key : String) (caller : Caller) (s : Session) :
    Option (Served × Session) :=
  s.onService fun host _ service =>
    match caller, link with
    | .sender .., .unreachable => pure (.unreachable, host)
    | .sender method target headers body, .up =>
      match Admin.Request.received? method target headers body with
      | none => pure (.reply (.bare 400), host)
      | some request => do
        let (reply, host) ← Admin.answer s.files key service request host
        pure (.reply reply, host)
    | .client args, link => do
      let (exit, host) ← Client.run link s.files key service (clientArgs args) host
      pure (.exit exit, host)

/-- Serves callers one after the other. -/
def serveEach (link : Client.Link) (key : String) : List Caller → Session →
    Option (List Served × Session)
  | [], s => some ([], s)
  | caller :: rest, s => do
    let (served, s) ← s.serveOne link key caller
    let (later, s) ← serveEach link key rest s
    return (served :: later, s)

/-- Serves the interface at an address to some callers, then stops. -/
def serve (link : Client.Link) (address : String) (key : Option String)
    (callers : List Caller) (s : Session) : Option (List Served × Session) := do
  let _ ← s.working
  let (_, s) := s.noting (Observed.log (.listening address))
  let (served, s) ← serveEach link (key.getD s.key) callers s
  let (_, s) := s.noting (Observed.log .stopped)
  return (served, s)

end Session

end Warden
