/-
A reload of everything on a host.

# Contents

A host's round is that of its registry, worked on its world
(`dispatchEach_eq`), so what holds of every round holds of it: everyone
is reached, in the order of the identifiers, and runs once. What the host
itself tells agrees, for the callbacks that it reports are those of the
handlers (`callsOf_dispatchEach`).

# Why the order does not matter

A service's own handler works on one policy of one service, so two of
them meet only where they are the same (`Service.refresh_comm`); a
foreign callback remembers its own runs alone. So runs commute
(`runsCommute`), and the host is in the end the same in whatever order the
commands ran.
-/
import Warden.Proofs.Host.Accounting
import Warden.Proofs.Refresh.Rounds

namespace Warden

open Text

namespace Service

variable (files : FileSystem) (s : Service) (p q : Policy)

/-- A refresh leaves the source. -/
theorem source_refresh : (s.refresh files p).value.2.source = s.source :=
  (sameBut_refresh files s p).source

/-- Two reloads work on different fields, or are one and the same. -/
theorem reload_comm (config : Config) :
    ((s.reload files config p).value.2.reload files config q).value.2
      = ((s.reload files config q).value.2.reload files config p).value.2 := by
  cases p <;> cases q <;> rfl

/-- Two refreshes of a service may be made in either order. -/
theorem refresh_comm :
    ((s.refresh files p).value.2.refresh files q).value.2
      = ((s.refresh files q).value.2.refresh files p).value.2 := by
  rw [refresh_eq_settled files (s.refresh files p).value.2, source_refresh,
    refresh_eq_settled files (s.refresh files q).value.2, source_refresh,
    refresh_eq_settled, refresh_eq_settled]
  cases (s.source.load files).toOption with
  | none => rfl
  | some config => exact s.reload_comm files p q config

end Service

namespace Host

variable (files : FileSystem)

-- ========================================================= runs commute

variable {size : Nat} (world : World size)

/-- An own handler refreshes its service, and no other. -/
theorem services_run_own (n : Nat) (p : Policy) (args : List String) :
    (run files (.own n p) args world).value.2.services
      = world.services.modify n fun s => (s.refresh files p).value.2 := by
  rw [List.modify_eq_set_getElem?]
  simp only [run]
  cases world.services[n]? <;> rfl

/-- An own handler leaves what foreign callbacks remember as it is. -/
theorem ran_run_own (n : Nat) (p : Policy) (args : List String) :
    (run files (.own n p) args world).value.2.ran = world.ran := by
  simp only [run]
  cases world.services[n]? <;> rfl

/-- Two foreign callbacks remember two runs, one each or both of one
registration. -/
theorem call_comm (m n : Nat) (args : List String) :
    (world.call m args).call n args = (world.call n args).call m args := by
  refine World.ext rfl (funext fun number => ?_)
  simp only [World.call]
  split_ifs <;> rfl

/-- All handlers of a host commute, since each has something of its own. -/
theorem runsCommute : Registry.RunsCommute (@run size files) := by
  intro f g world
  cases f with
  | foreign m behaviour =>
      cases g with
      | foreign n behaviour' => exact call_comm world m n []
      | own n p =>
          refine World.ext ?_ ?_
          · exact (services_run_own files (world.call m []) n p []).trans
              (services_run_own files world n p []).symm
          · show (run files (.own n p) [] (world.call m [])).value.2.ran
              = ((run files (.own n p) [] world).value.2.call m []).ran
            simp only [World.call, ran_run_own]
  | own n p =>
      cases g with
      | foreign m behaviour =>
          refine World.ext ?_ ?_
          · exact (services_run_own files world n p []).trans
              (services_run_own files (world.call m []) n p []).symm
          · show ((run files (.own n p) [] world).value.2.call m []).ran
              = (run files (.own n p) [] (world.call m [])).value.2.ran
            simp only [World.call, ran_run_own]
      | own m q =>
          refine World.ext ?_ (by simp only [ran_run_own])
          simp only [services_run_own]
          by_cases hnm : n = m
          case pos =>
            subst hnm
            rw [List.modify_modify_eq, List.modify_modify_eq]
            exact congrArg (world.services.modify n) (funext fun s => s.refresh_comm files p q)
          case neg => exact List.modify_modify_ne _ _ _ hnm

-- ============================================================== a round

/-- A host's round is that of its registry, on its world. -/
theorem dispatchEach_eq (identifiers : List String) (h : Host) :
    dispatchEach files identifiers h
      = (fun result => (result.1, { h with world := result.2 }))
        <$> h.registry.dispatchEach (run files) identifiers h.world := by
  induction identifiers generalizing h with
  | nil => rfl
  | cons identifier rest ih =>
      simp only [dispatchEach, Registry.dispatchEach, dispatch, ih, map_eq_pure_bind, bind_assoc,
        pure_bind]

/-- The callbacks that a round runs are those that are registered. -/
theorem callsOf_dispatchEach (identifiers : List String) (h : Host) :
    callsOf (dispatchEach files identifiers h).notes
      = identifiers.flatMap fun i => (h.handler? i).elim [] (Handler.calls []) := by
  induction identifiers generalizing h with
  | nil => rfl
  | cons identifier rest ih =>
      rw [notes_dispatchEach_cons, callsOf_append, ih, List.flatMap_cons]
      refine congrArg (· ++ _) ?_
      cases hhandler : h.handler? identifier with
      | none => rw [notes_dispatch_of_handler?_eq_none files [] hhandler]; rfl
      | some handler => exact callsOf_dispatch files [] hhandler

/-- So the order of a round does not count for what it leaves. -/
theorem dispatchEach_perm {order identifiers : List String} (hperm : order.Perm identifiers)
    (h : Host) :
    (dispatchEach files order h).value.2 = (dispatchEach files identifiers h).value.2 := by
  rw [dispatchEach_eq, dispatchEach_eq, Observed.value_map, Observed.value_map,
    (runsCommute files).dispatchEach_perm hperm]

/-- A reload of everything, on any host: the identifiers are those that
have a handler, in ascending byte order, and each gets one response, that
of a single command at this point. Whatever the handlers do to whatever
world, and however they end, each has run once and without arguments, and
the host tells of just these callbacks. The registry is left as it is.
The host is in the end the same in whatever order the commands of some
identifiers run, so it is with those of the three policies. -/
theorem reloadAll_reaches_everyone (files : FileSystem) (h : Host) :
    let names := h.registry.identifiers
    let responses := (h.reloadAll files).value.1
    ByteAscending names
      ∧ (∀ identifier, identifier ∈ names ↔ ∃ handler, h.handler? identifier = some handler)
      ∧ responses.map Prod.fst = names
      ∧ (∀ before identifier later, names = before ++ identifier :: later →
          let here := (dispatchEach files before h).value.2
          responses[before.length]?
            = some (identifier, (here.dispatch files identifier []).value.1))
      ∧ (∀ (σ : Type) (run : Handler → List String → σ → Observed (Outcome × σ)) (world : σ),
          h.registry.Reaches run world)
      ∧ callsOf (h.reloadAll files).notes
          = names.flatMap (fun i => (h.handler? i).elim [] (Handler.calls []))
      ∧ (h.reloadAll files).value.2.registry = h.registry
      ∧ ∀ identifiers order, order.Perm identifiers →
          (dispatchEach files order h).value.2 = (dispatchEach files identifiers h).value.2 := by
  intro names responses
  have hround : responses = (h.registry.dispatchEach (run files) names h.world).value.1 := by
    show (dispatchEach files names h).value.1 = _
    rw [dispatchEach_eq]
    rfl
  have hreaches := Registry.reaches h.registry (run files) h.world
  refine ⟨byteAscending_keys _, fun identifier => ?_, ?_, ?_, fun σ run world => ?_, ?_, ?_, ?_⟩
  · rw [Registry.mem_identifiers_iff, handler?]
    simp
  · rw [hround]
    exact hreaches.named
  · intro before identifier later hsplit here
    rw [hround, hreaches.single before identifier later hsplit]
    simp only [here, dispatchEach_eq]
    rfl
  · exact Registry.reaches h.registry run world
  · exact callsOf_dispatchEach files names h
  · exact registry_reloadAll files h
  · exact fun identifiers order hperm => dispatchEach_perm files hperm h

/-- One that breaks off every second time stands between two that are done. -/
example :
    let everySecond (call : Invocation) : Outcome :=
      if call.past.length % 2 = 0 then .panicked none else .done
    let entries : List (String × (Invocation → Outcome)) :=
      [("C", fun _ => .done), ("A", fun _ => .done), ("B", everySecond)]
    let h := entries.zipIdx.foldl (fun h (e, n) => (h.register e.1 n e.2).value) new
    let files := FileSystem.empty []
    let again := (h.reloadAll files).value.2
    (h.reloadAll files).value.1.map (fun r => (r.1, r.2.status)) = [("A", 0), ("B", -1), ("C", 0)]
      ∧ callsOf (h.reloadAll files).notes = [(1, []), (2, []), (0, [])]
      ∧ (again.reloadAll files).value.1.map (fun r => (r.1, r.2.status))
        = [("A", 0), ("B", 0), ("C", 0)] := by decide

end Host

end Warden
