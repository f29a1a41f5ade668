/-
A host: a registry, and the services whose handlers stand in it.

# Contents

A `Handler` is a service's own reload of one policy, or a foreign
callback. `Host.start` makes a service and registers its three handlers
under their fixed identifiers; a service that was there before keeps its
policies but loses those identifiers. `dispatch` runs one refresh
command, `reloadAll` one for every identifier, and `shutdown` removes
the three identifiers, whoever has them by then.

Handlers work on a `World`: the services, and what foreign callbacks
remember. A foreign callback decides how it ends from its arguments and
those of its runs before. It has no hold on policies or registry. A host
has a service for every own handler in its registry (`Host.staffed`).
-/
import Warden.Refresh.Registry
import Warden.Service

namespace Warden

open Observed

/-- A run of a foreign callback. -/
structure Invocation where
  args : List String
  /-- The arguments of the runs of this callback before. -/
  past : List (List String)

/-- What can be registered. -/
inductive Handler where
  /-- A service's reload of one policy. -/
  | own (service : Nat) (policy : Policy)
  /-- A callback of someone else, by the number of its registration. -/
  | foreign (number : Nat) (behaviour : Invocation → Outcome)

-- =================================================================== worlds

/-- What the handlers of a host with so many services work on. -/
@[ext] structure World (size : Nat) where
  /-- Services by number. -/
  services : List Service
  /-- The arguments of the runs so far of each foreign callback, by the
  number of its registration. -/
  ran : Nat → List (List String)
  size_eq : services.length = size

namespace World

variable {size : Nat}

/-- No service, and no callback that ran. -/
def new : World 0 := ⟨[], fun _ => [], rfl⟩

/-- Puts a service in the place of the one of a number. -/
def put (number : Nat) (s : Service) (w : World size) : World size where
  services := w.services.set number s
  ran := w.ran
  size_eq := by rw [List.length_set, w.size_eq]

/-- Takes up one more service. -/
def add (s : Service) (w : World size) : World (size + 1) where
  services := w.services ++ [s]
  ran := w.ran
  size_eq := by rw [List.length_append, List.length_singleton, w.size_eq]

/-- Keeps in mind that a foreign callback ran. -/
def call (number : Nat) (args : List String) (w : World size) : World size :=
  { w with ran := fun n => if n = number then w.ran n ++ [args] else w.ran n }

end World

/-- Whether every own handler has a service, if there are so many. -/
def Registry.Staffed (r : Registry Handler) (size : Nat) : Prop :=
  ∀ (identifier : String) (number : Nat) (policy : Policy),
    (r.find? identifier).map (·.handler) = some (.own number policy) → number < size

structure Host where
  /-- How many services there are. -/
  size : Nat
  registry : Registry Handler
  world : World size
  staffed : registry.Staffed size

/-- The state of a service at a glance. -/
structure Status where
  version : String
  groupUsers : Nat
  whitelistEnabled : Bool
  fixedAddresses : Nat
  variableAddresses : Nat
  passwordEnabled : Bool
  passwordUsers : Nat
  identifiers : List String
deriving DecidableEq, Repr

/-- The version of the program. -/
def version : String := "0.1.0"

-- ============================================================== staffing

namespace Registry

variable {r : Registry Handler} {size : Nat}

theorem staffed_new (size : Nat) : (new : Registry Handler).Staffed size := by
  intro identifier number policy h
  simp at h

/-- A handler may be registered if it has a service, or needs none. -/
theorem Staffed.insert (hr : r.Staffed size) {handler : Handler}
    (hhandler : ∀ number policy, handler = .own number policy → number < size)
    (identifier : String) : (r.insert identifier handler).Staffed size := by
  intro other number policy h
  rw [handler_find?_insert] at h
  split at h
  case isTrue => exact hhandler number policy (Option.some.inj h)
  case isFalse => exact hr other number policy h

theorem Staffed.unregister (hr : r.Staffed size) (identifier : String) :
    (r.unregister identifier).2.Staffed size := by
  intro other number policy h
  rw [find?_unregister] at h
  split at h
  case isTrue => cases h
  case isFalse => exact hr other number policy h

/-- More services do no harm. -/
theorem Staffed.mono (hr : r.Staffed size) {more : Nat} (h : size ≤ more) : r.Staffed more :=
  fun identifier number policy hown => Nat.lt_of_lt_of_le (hr identifier number policy hown) h

end Registry

namespace Host

/-- No registration and no service. -/
def new : Host := ⟨0, .new, .new, Registry.staffed_new 0⟩

/-- The services by number. -/
abbrev services (h : Host) : List Service := h.world.services

/-- The service of a number. -/
def service? (h : Host) (number : Nat) : Option Service := h.services[number]?

/-- Puts a service in the place of the one of a number. -/
def withService (h : Host) (number : Nat) (s : Service) : Host :=
  { h with world := h.world.put number s }

-- ================================================================= commands

/-- How a handler works on the world. An own handler without a service
would do nothing; no host has one. -/
def run {size : Nat} (files : FileSystem) : Handler → List String → World size →
    Observed (Outcome × World size)
  | .foreign number behaviour, args, world => do
    note (.call number args)
    pure (behaviour ⟨args, world.ran number⟩, world.call number args)
  | .own number policy, _, world =>
    match world.services[number]? with
    | none => pure (.done, world)
    | some s => do
      let (outcome, s) ← s.refresh files policy
      pure (outcome, world.put number s)

/-- Runs the refresh command of an identifier. -/
def dispatch (files : FileSystem) (identifier : String) (args : List String) (h : Host) :
    Observed (Response × Host) := do
  let (response, world) ← h.registry.dispatch (run files) identifier args h.world
  pure (response, { h with world })

/-- Runs the refresh commands of some identifiers in order, each without
arguments. -/
def dispatchEach (files : FileSystem) : List String → Host →
    Observed (List (String × Response) × Host)
  | [], h => pure ([], h)
  | identifier :: rest, h => do
    let (response, h) ← h.dispatch files identifier []
    let (responses, h) ← dispatchEach files rest h
    pure ((identifier, response) :: responses, h)

/-- Runs the refresh command of every identifier. -/
def reloadAll (files : FileSystem) (h : Host) : Observed (List (String × Response) × Host) :=
  dispatchEach files h.registry.identifiers h

-- ======================================================= registering

/-- Registers a foreign callback. -/
def register (identifier : String) (number : Nat) (behaviour : Invocation → Outcome)
    (h : Host) : Observed Host :=
  let registered := h.registry.register identifier (.foreign number behaviour)
  { value :=
      { h with
        registry := registered.value
        staffed := h.staffed.insert (fun _ _ heq => by cases heq) identifier }
    notes := registered.notes }

/-- Removes what is under an identifier. -/
def unregister (identifier : String) (h : Host) : Bool × Host :=
  ((h.registry.unregister identifier).1,
    { h with
      registry := (h.registry.unregister identifier).2
      staffed := h.staffed.unregister identifier })

/-- Registers the handlers of a service for some policies. -/
def registerOwn (number : Nat) : List Policy → Registry Handler → Observed (Registry Handler)
  | [], r => pure r
  | policy :: rest, r => do
    let r ← r.register policy.identifier (.own number policy)
    registerOwn number rest r

/-- Registering the own handlers of a service that is there keeps all
staffed. -/
theorem staffed_registerOwn {number size : Nat} (hnumber : number < size) :
    ∀ (policies : List Policy) {r : Registry Handler}, r.Staffed size →
      (registerOwn number policies r).value.Staffed size := by
  intro policies
  induction policies with
  | nil => intro r hr; exact hr
  | cons policy rest ih =>
      intro r hr
      refine ih (hr.insert (fun n p heq => ?_) policy.identifier)
      injection heq with heq
      exact heq ▸ hnumber

/-- Makes a service and registers its handlers; the service and its number
come back. Where no service can be made, the host stays as it is. -/
def start (files : FileSystem) (source : ConfigSource) (h : Host) :
    Observed (Except StartupError (Nat × Service) × Host) := do
  match ← Service.create files source with
  | .error e => pure (.error e, h)
  | .ok s =>
    let registered := registerOwn h.size Policy.all h.registry
    notesOf registered.notes
    log (.initialized registered.value.identifiers)
    pure (.ok (h.size, s),
      { size := h.size + 1
        registry := registered.value
        world := h.world.add s
        staffed := staffed_registerOwn h.size.lt_succ_self Policy.all
          (h.staffed.mono h.size.le_succ) })

/-- Removes the identifiers of the three policies. -/
def shutdown (h : Host) : Observed Host := do
  let left := Policy.all.foldl (fun h policy => (h.unregister policy.identifier).2) h
  log .unregistered
  pure left

-- ================================================================== status

/-- The state of a service on its host. -/
def status (h : Host) (s : Service) : Status where
  version := version
  groupUsers := s.groups.published.current.size
  whitelistEnabled := s.whitelist.enabled
  fixedAddresses := s.whitelist.fixed.current.size
  variableAddresses := s.whitelist.variableList.current.size
  passwordEnabled := s.passwords.enabled
  passwordUsers := s.passwords.published.current.size
  identifiers := h.registry.identifiers

end Host

end Warden
