/-
A round of a registry: its commands one after the other.

# Contents

What handlers do, and to what world, is open here as it is for a single
command; they may change the world, end badly, or look at what those
before them left. A round is therefore said in terms of single commands:
there is one response for each identifier, and each is the one that the
command gives in the world at that point (`value_dispatchEach_append`).
No outcome ends a round early, so the list of the runs is the list of
what is registered (`value_dispatchEach_recorded`). `Reaches` is this for
the round of everything that is registered.

# The order

Where the runs of any two handlers commute, so do the commands, and the
world after a round is the same in every order
(`RunsCommute.dispatchEach_perm`).
-/
import Mathlib.Data.List.Perm.Basic
import Warden.Proofs.Refresh.Ledger

namespace Warden

open Text

namespace Registry

variable {H σ : Type} (r : Registry H) (run : H → List String → σ → Observed (Outcome × σ))

/-- Runs the commands of some identifiers in order, each without
arguments. -/
def dispatchEach : List String → σ → Observed (List (String × Response) × σ)
  | [], world => pure ([], world)
  | identifier :: rest, world => do
    let (response, world) ← r.dispatch run identifier [] world
    let (responses, world) ← dispatchEach rest world
    pure ((identifier, response) :: responses, world)

/-- The run that a command without arguments is due, if any. -/
def due (identifier : String) : Option (H × List String) :=
  ((r.find? identifier).map (·.handler)).map fun handler => (handler, [])

variable {r run} {identifiers order : List String}

-- ============================================================== a round

/-- A round leaves the world as the dispatches do, one after the other. -/
theorem world_dispatchEach (world : σ) :
    (r.dispatchEach run identifiers world).value.2
      = identifiers.foldl (fun world i => (r.dispatch run i [] world).value.2) world := by
  induction identifiers generalizing world with
  | nil => rfl
  | cons identifier rest ih => exact ih _

/-- The later part of a round goes on in the world that the first left. -/
theorem value_dispatchEach_append (later : List String) (world : σ) :
    let first := (r.dispatchEach run identifiers world).value
    let second := (r.dispatchEach run later first.2).value
    (r.dispatchEach run (identifiers ++ later) world).value
      = (first.1 ++ second.1, second.2) := by
  induction identifiers generalizing world with
  | nil => rfl
  | cons identifier rest ih =>
      simp only [List.cons_append, dispatchEach, Observed.value_bind, Observed.value_pure, ih]

/-- A round has one response for each identifier, in order. -/
theorem map_fst_dispatchEach (world : σ) :
    (r.dispatchEach run identifiers world).value.1.map Prod.fst = identifiers := by
  induction identifiers generalizing world with
  | nil => rfl
  | cons identifier rest ih => exact congrArg (identifier :: ·) (ih _)

/-- A response is that of a single command, at its point of the round. -/
theorem getElem?_dispatchEach (before : List String) (identifier : String) (later : List String)
    (world : σ) :
    let here := (r.dispatchEach run before world).value.2
    (r.dispatchEach run (before ++ identifier :: later) world).value.1[before.length]?
      = some (identifier, (r.dispatch run identifier [] here).value.1) := by
  intro here
  have hlength : (r.dispatchEach run before world).value.1.length = before.length := by
    rw [← List.length_map Prod.fst, map_fst_dispatchEach]
  rw [value_dispatchEach_append, ← hlength, List.getElem?_append_right (Nat.le_refl _),
    Nat.sub_self]
  rfl

/-- A round runs what is due for each identifier, however the runs end,
and keeping a list of them has no effect on the round. -/
theorem value_dispatchEach_recorded (world : σ) (ran : List (H × List String)) :
    let plain := (r.dispatchEach run identifiers world).value
    (r.dispatchEach (recorded run) identifiers (world, ran)).value
      = (plain.1, (plain.2, ran ++ identifiers.filterMap r.due)) := by
  induction identifiers generalizing world ran with
  | nil => simp [dispatchEach]
  | cons identifier rest ih =>
      have hdue : (identifier :: rest).filterMap r.due
          = (r.due identifier).toList ++ rest.filterMap r.due := by
        rw [List.filterMap_cons]
        cases r.due identifier <;> rfl
      simp only [dispatchEach, Observed.value_bind, Observed.value_pure, value_dispatch_recorded,
        ih, hdue, List.append_assoc]
      rfl

-- ========================================================= everyone's turn

/-- The identifiers are those with a registration. -/
theorem mem_identifiers_iff {identifier : String} :
    identifier ∈ r.identifiers ↔ ∃ registration, r.find? identifier = some registration := by
  rw [← Option.isSome_iff_exists, ← contains_eq_isSome]
  exact Std.TreeMap.mem_keys

/-- What is due in a round is due for every identifier. -/
theorem map_some_filterMap_due :
    (r.identifiers.filterMap r.due).map some = r.identifiers.map r.due := by
  have hall : ∀ identifier ∈ r.identifiers, (r.due identifier).isSome = true := by
    intro identifier hmem
    obtain ⟨registration, hfind⟩ := mem_identifiers_iff.mp hmem
    rw [due, hfind]
    rfl
  generalize r.identifiers = identifiers at hall
  induction identifiers with
  | nil => rfl
  | cons identifier rest ih =>
      obtain ⟨turn, hturn⟩ := Option.isSome_iff_exists.mp (hall identifier List.mem_cons_self)
      rw [List.filterMap_cons, hturn, List.map_cons, List.map_cons, hturn,
        ih fun i hi => hall i (List.mem_cons_of_mem _ hi)]

/-- A round of all that is registered, in a world, reaches everyone. -/
structure Reaches (r : Registry H) (run : H → List String → σ → Observed (Outcome × σ))
    (world : σ) : Prop where
  /-- There is one response for each identifier, in order. -/
  named : (r.dispatchEach run r.identifiers world).value.1.map Prod.fst = r.identifiers
  /-- It is that of a single command at this point. -/
  single : ∀ before identifier later, r.identifiers = before ++ identifier :: later →
    let here := (r.dispatchEach run before world).value.2
    (r.dispatchEach run r.identifiers world).value.1[before.length]?
      = some (identifier, (r.dispatch run identifier [] here).value.1)
  /-- What is registered has run, each once and without arguments. -/
  once : ∃ ran,
    let plain := (r.dispatchEach run r.identifiers world).value
    (r.dispatchEach (recorded run) r.identifiers (world, [])).value
        = (plain.1, (plain.2, ran))
      ∧ ran.map some = r.identifiers.map r.due

/-- A round reaches everything that is registered. -/
theorem reaches (r : Registry H) (run : H → List String → σ → Observed (Outcome × σ)) (world : σ) :
    Reaches r run world where
  named := map_fst_dispatchEach world
  single := by
    intro before identifier later hsplit
    rw [hsplit]
    exact getElem?_dispatchEach before identifier later world
  once := ⟨_, value_dispatchEach_recorded world [], map_some_filterMap_due⟩

-- ============================================================ any order

/-- Two handlers leave the same world in whichever order they run. -/
def RunsCommute (run : H → List String → σ → Observed (Outcome × σ)) : Prop :=
  ∀ f g world, (run g [] (run f [] world).value.2).value.2
    = (run f [] (run g [] world).value.2).value.2

/-- Where runs commute, so do dispatches. -/
theorem RunsCommute.dispatch (hcomm : RunsCommute run) (i j : String) (world : σ) :
    (r.dispatch run j [] (r.dispatch run i [] world).value.2).value.2
      = (r.dispatch run i [] (r.dispatch run j [] world).value.2).value.2 := by
  cases hi : r.find? i with
  | none => rw [dispatch_of_find?_eq_none hi, dispatch_of_find?_eq_none hi]
  | some f =>
      cases hj : r.find? j with
      | none => rw [dispatch_of_find?_eq_none hj, dispatch_of_find?_eq_none hj]
      | some g =>
          simp only [dispatch_of_find?_eq_some hi, dispatch_of_find?_eq_some hj]
          exact hcomm f.handler g.handler world

/-- So a round may be taken in any order. -/
theorem RunsCommute.dispatchEach_perm (hcomm : RunsCommute run) (hperm : order.Perm identifiers)
    (world : σ) :
    (r.dispatchEach run order world).value.2 = (r.dispatchEach run identifiers world).value.2 := by
  rw [world_dispatchEach, world_dispatchEach]
  exact hperm.foldl_eq' (fun i _ j _ world => hcomm.dispatch i j world) world

end Registry

end Warden
