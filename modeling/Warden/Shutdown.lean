/-
The shutdown signal: handles that trigger it, waiters that wait for it.

# Contents

All handles share one channel that keeps only the last signal. A waiter
remembers how many signals there were when it was made, its cursor. When
polled it finds one of three things: a signal past its cursor, which may
be the one still kept or may be lost; no signal but no handle either; or
nothing, and then it waits on. Each of the first two resolves it, for
good.

`Waiter.poll` follows the channel; that its answer is "a trigger came
after me, or all handles are gone" is a property of whole runs.
-/

namespace Warden

namespace Shutdown

/-- The shared channel. -/
structure Channel where
  /-- How many signals were ever sent. -/
  sent : Nat
  /-- How many handles exist. -/
  handles : Nat
deriving DecidableEq, Repr

/-- What a waiter finds in the channel. -/
inductive Found where
  /-- The signal it waits for. -/
  | signal
  /-- Signals came, and the one next in turn is no longer kept. -/
  | lagged
  /-- No handle is left that could send one. -/
  | closed
  /-- Nothing yet. -/
  | nothing
deriving DecidableEq, Repr

/-- One who waits for the signal. -/
structure Waiter where
  /-- How many signals there were before it. -/
  cursor : Nat
  /-- Whether an earlier poll resolved it. -/
  resolved : Bool
deriving DecidableEq, Repr

namespace Channel

/-- A new channel has one handle. -/
def new : Channel := ⟨0, 1⟩

/-- A waiter for signals from now on. -/
def waiter (c : Channel) : Waiter := ⟨c.sent, false⟩

/-- One more handle. -/
def clone (c : Channel) : Channel := { c with handles := c.handles + 1 }

/-- One handle less. -/
def drop (c : Channel) : Channel := { c with handles := c.handles - 1 }

/-- Sends the signal. -/
def trigger (c : Channel) : Channel := { c with sent := c.sent + 1 }

/-- What stands at a cursor. Only the last signal is kept. -/
def find (c : Channel) (cursor : Nat) : Found :=
  if cursor < c.sent then
    if cursor + 1 = c.sent then .signal else .lagged
  else if c.handles = 0 then .closed
  else .nothing

end Channel

/-- Asks a waiter whether it has resolved. -/
def Waiter.poll (w : Waiter) (c : Channel) : Bool × Waiter :=
  if w.resolved then (true, w)
  else
    match c.find w.cursor with
    | .nothing => (false, w)
    | _ => (true, { w with resolved := true })

-- ======================================================= a family at work

/-- A channel, its handles by number (gone ones too), its waiters by number. -/
structure Family where
  channel : Channel
  /-- Whether the handle of each number still exists. -/
  handles : List Bool
  waiters : List Waiter
deriving DecidableEq, Repr

namespace Family

/-- One handle, number zero, and no waiter. -/
def new : Family := ⟨.new, [true], []⟩

/-- Makes a waiter through a handle and gives its number. -/
def signalled (f : Family) : Nat × Family :=
  (f.waiters.length, { f with waiters := f.waiters ++ [f.channel.waiter] })

/-- Makes another handle and gives its number. -/
def clone (f : Family) : Nat × Family :=
  (f.handles.length, { f with channel := f.channel.clone, handles := f.handles ++ [true] })

/-- Lets go of a handle; one that is gone already stays gone. -/
def drop (f : Family) (handle : Nat) : Family :=
  if f.handles[handle]? = some true then
    { f with channel := f.channel.drop, handles := f.handles.set handle false }
  else f

/-- Sends the signal through a handle. -/
def trigger (f : Family) : Family := { f with channel := f.channel.trigger }

/-- Polls the waiter of a number. -/
def resolved (f : Family) (waiter : Nat) : Bool × Family :=
  match f.waiters[waiter]? with
  | none => (false, f)
  | some w =>
    let (answer, w) := w.poll f.channel
    (answer, { f with waiters := f.waiters.set waiter w })

/-- Whether a handle exists. -/
def has (f : Family) (handle : Nat) : Bool := f.handles[handle]? == some true

end Family

end Shutdown

end Warden
