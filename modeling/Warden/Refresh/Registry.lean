/-
The registry: which handler runs under which identifier.

# Contents

A `Registry` maps identifiers to handlers; the last registration under an
identifier is the one that counts. What a handler is stays open here, so
that the laws of the map hold for any: `dispatch` is given the way to run
one.

# Gates

Runs under one identifier take turns at its gate. A gate belongs to the
registration and is handed on when another handler takes its place. An
identifier that was removed and comes back has a new gate, so each gate
is known by a number that no later one has.
-/
import Std.Data.TreeMap
import Warden.Journal

namespace Warden

open Observed

/-- A handler, and the gate that its runs take turns at. -/
structure Registration (H : Type) where
  handler : H
  gate : Nat

structure Registry (H : Type) where
  entries : Std.TreeMap String (Registration H)
  /-- How many gates there ever were. -/
  gates : Nat

namespace Registry

variable {H σ : Type}

/-- Nothing is registered yet. -/
def new : Registry H := ⟨∅, 0⟩

-- ================================================================== the map

/-- The registration under an identifier. -/
def find? (r : Registry H) (identifier : String) : Option (Registration H) :=
  r.entries[identifier]?

/-- Puts a handler under an identifier, in place of the one there. -/
def insert (r : Registry H) (identifier : String) (handler : H) : Registry H :=
  match r.find? identifier with
  | some old => { r with entries := r.entries.insert identifier ⟨handler, old.gate⟩ }
  | none => ⟨r.entries.insert identifier ⟨handler, r.gates⟩, r.gates + 1⟩

/-- Puts a handler under an identifier and tells so. -/
def register (r : Registry H) (identifier : String) (handler : H) : Observed (Registry H) := do
  log (.registering identifier)
  pure (r.insert identifier handler)

/-- Whether a handler is registered under an identifier. -/
def contains (r : Registry H) (identifier : String) : Bool := r.entries.contains identifier

/-- Removes what is under an identifier, and whether there was anything. -/
def unregister (r : Registry H) (identifier : String) : Bool × Registry H :=
  (r.contains identifier, { r with entries := r.entries.erase identifier })

/-- The identifiers, in ascending order. -/
def identifiers (r : Registry H) : List String := r.entries.keys

/-- How a registry is shown. -/
def describe (r : Registry H) : String :=
  "RefreshRegistry \x7b identifiers: " ++ Text.quotedList r.identifiers ++ " \x7d"

-- ================================================================= dispatch

/-- What is told about the way a handler's run ended. -/
def remarks (identifier : String) : Outcome → List Note
  | .done => []
  | .failed cause => [.event (.refreshFailed identifier cause)]
  | .panicked text => [.event (.refreshPanicked identifier (panicMessage text))]

/-- Runs what is registered under an identifier and makes the response.
`run` says how a handler works on a state. -/
def dispatch (r : Registry H) (run : H → List String → σ → Observed (Outcome × σ))
    (identifier : String) (args : List String) (state : σ) : Observed (Response × σ) :=
  match r.find? identifier with
  | none => do
    log (.unknownIdentifier identifier)
    let response := Response.unknownIdentifier identifier
    count (.refreshed none response.status)
    pure (response, state)
  | some registration => do
    log (.refreshStarted identifier args)
    let (outcome, state) ← run registration.handler args state
    notesOf (remarks identifier outcome)
    let response := Response.ofOutcome outcome
    log (.refreshFinished identifier response.status)
    count (.refreshed (some identifier) response.status)
    pure (response, state)

-- =================================================================== lookups

@[simp] theorem find?_new (identifier : String) : (new : Registry H).find? identifier = none := by
  simp [find?, new]

/-- A registration counts under its own identifier only. -/
theorem handler_find?_insert (r : Registry H) (identifier other : String) (handler : H) :
    ((r.insert identifier handler).find? other).map (·.handler) =
      if identifier = other then some handler else (r.find? other).map (·.handler) := by
  unfold insert
  split <;> by_cases h : identifier = other <;>
    simp [find?, Std.TreeMap.getElem?_insert, h]

/-- Removing concerns the one identifier only. -/
theorem find?_unregister (r : Registry H) (identifier other : String) :
    (r.unregister identifier).2.find? other =
      if identifier = other then none else r.find? other := by
  by_cases h : identifier = other <;>
    simp [find?, unregister, Std.TreeMap.getElem?_erase, h]

/-- Contained is what has a registration. -/
theorem contains_eq_isSome (r : Registry H) (identifier : String) :
    r.contains identifier = (r.find? identifier).isSome := by
  simp [contains, find?]

/-- A dispatch that finds nothing runs nothing. -/
theorem dispatch_of_find?_eq_none {r : Registry H} {identifier : String}
    (h : r.find? identifier = none) (run : H → List String → σ → Observed (Outcome × σ))
    (args : List String) (state : σ) :
    (r.dispatch run identifier args state).value =
      (.unknownIdentifier identifier, state) := by
  simp [dispatch, h]

/-- A dispatch answers for the outcome of the handler's run. -/
theorem dispatch_of_find?_eq_some {r : Registry H} {identifier : String}
    {registration : Registration H} (h : r.find? identifier = some registration)
    (run : H → List String → σ → Observed (Outcome × σ)) (args : List String) (state : σ) :
    (r.dispatch run identifier args state).value =
      let result := (run registration.handler args state).value
      (.ofOutcome result.1, result.2) := by
  simp [dispatch, h]

end Registry

end Warden
