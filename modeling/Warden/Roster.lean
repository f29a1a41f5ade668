/-
Rosters: which names stand under a name.

# Contents

A `Roster` gives to each name that occurs in it a set of names: the
groups of a user, or the users trusted from an address. A name that
occurs on several lines has the values of all of them.
-/
import Std.Data.TreeMap
import Std.Data.TreeSet
import Warden.Record.Basic

namespace Warden

/-- A set of names, in ascending order. -/
abbrev Names := Std.TreeSet String

structure Roster where
  entries : Std.TreeMap String Names

namespace Roster

instance : EmptyCollection Roster := ⟨⟨∅⟩⟩

/-- The names under a name, if it occurs. -/
def find? (r : Roster) (name : String) : Option Names := r.entries[name]?

/-- How many names have an entry. -/
def size (r : Roster) : Nat := r.entries.size

def isEmpty (r : Roster) : Bool := r.entries.isEmpty

/-- Adds names under a name. -/
def enrol (r : Roster) (name : String) (values : List String) : Roster :=
  ⟨r.entries.insert name (((r.find? name).getD ∅).insertMany values)⟩

/-- The roster of a file's records. -/
def ofRecords (records : List Record) : Roster :=
  records.foldl (fun r record => r.enrol record.key record.values) ∅

@[simp] theorem find?_empty (name : String) : (∅ : Roster).find? name = none := by
  change (∅ : Std.TreeMap String Names)[name]? = none
  simp

/-- Adding under one name leaves every other name as it was. -/
theorem find?_enrol (r : Roster) (name other : String) (values : List String) :
    (r.enrol name values).find? other =
      if name = other then some (((r.find? name).getD ∅).insertMany values)
      else r.find? other := by
  simp only [enrol, find?, Std.TreeMap.getElem?_insert]
  by_cases h : name = other
  · simp [h]
  · simp [h]

end Roster

end Warden
