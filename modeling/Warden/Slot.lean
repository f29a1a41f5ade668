/-
The place where a dataset is published.

# Contents

A `Slot` always holds one whole value. Readers take the value it holds
and keep it for as long as they like, since values do not change; the
only way to change a slot is to put another value in its place.
-/
import Warden.Text.Quoted

namespace Warden

/-- Holds the published value. -/
structure Slot (α : Type) where
  /-- The value that a reader gets. -/
  current : α
deriving DecidableEq, Repr

namespace Slot

variable {α : Type}

/-- A slot that holds the empty value. -/
def empty [EmptyCollection α] : Slot α := ⟨∅⟩

/-- Publishes `next`; the value it takes the place of comes back. -/
def replace (s : Slot α) (next : α) : α × Slot α := (s.current, ⟨next⟩)

/-- Publishes the empty value. -/
def clear [EmptyCollection α] (_ : Slot α) : Slot α := empty

@[simp] theorem current_replace (s : Slot α) (next : α) :
    (s.replace next).2.current = next := rfl

@[simp] theorem current_clear [EmptyCollection α] (s : Slot α) :
    s.clear.current = (∅ : α) := rfl

/-- How a slot of texts is shown. -/
def describe (s : Slot (List String)) : String :=
  "SnapshotStore \x7b current: " ++ Text.quotedList s.current ++ " \x7d"

end Slot

end Warden
