/-
What one refresh command can change.

# Contents

A command meets one of three things under its identifier: nothing, a
foreign callback, or a service's own handler. The first leaves the host as
it is, and the second does but for what the callback remembers
(`Host.Alike`). The third is a refresh of one policy of one service
(`dispatch_of_serves`), so the rest of the host and of that service stay
as they are, and everything does if there are no settings
(`dispatch_isolated`).
-/
import Warden.Host
import Warden.Proofs.Config.Source
import Warden.Proofs.Service.Refresh

namespace Warden

namespace Host

variable (files : FileSystem) {h : Host} {identifier : String} (args : List String)

/-- What stands under an identifier. -/
def handler? (h : Host) (identifier : String) : Option Handler :=
  (h.registry.find? identifier).map (·.handler)

/-- A service is on the host, and its own handler of a policy stands
under the identifier of that policy. -/
structure Serves (h : Host) (number : Nat) (s : Service) (p : Policy) : Prop where
  service : h.service? number = some s
  handler : h.handler? p.identifier = some (.own number p)

/-- An own handler has a service, on every host. -/
theorem exists_service_of_handler? {number : Nat} {p : Policy}
    (hown : h.handler? identifier = some (.own number p)) :
    ∃ s, h.service? number = some s := by
  have hlt : number < h.services.length := by
    rw [h.world.size_eq]
    exact h.staffed identifier number p hown
  exact ⟨h.services[number], List.getElem?_eq_getElem hlt⟩

/-- Two hosts have the same services and registrations; what foreign
callbacks remember may differ. -/
structure Alike (h g : Host) : Prop where
  services : g.services = h.services
  registry : g.registry = h.registry

theorem Alike.refl (h : Host) : h.Alike h := ⟨rfl, rfl⟩

/-- Hosts that are alike have the same handlers. -/
theorem Alike.handler? {g : Host} (halike : h.Alike g) (identifier : String) :
    g.handler? identifier = h.handler? identifier := by
  unfold Host.handler?
  rw [halike.registry]

/-- Hosts that are alike have the same services. -/
theorem Alike.service? {g : Host} (halike : h.Alike g) (number : Nat) :
    g.service? number = h.service? number := by
  unfold Host.service?
  rw [halike.services]

/-- Hosts that are alike serve the same policies. -/
theorem Alike.serves {g : Host} (halike : h.Alike g) {number : Nat} {s : Service} {p : Policy}
    (hserves : h.Serves number s p) : g.Serves number s p :=
  ⟨(halike.service? number).trans hserves.service,
    (halike.handler? p.identifier).trans hserves.handler⟩

/-- What is served is among the identifiers of the host. -/
theorem Serves.mem_identifiers {number : Nat} {s : Service} {p : Policy}
    (hserves : h.Serves number s p) :
    p.identifier ∈ h.registry.identifiers := by
  obtain ⟨registration, hfind, -⟩ := Option.map_eq_some_iff.mp hserves.handler
  have hcontains : h.registry.contains p.identifier = true := by
    rw [Registry.contains_eq_isSome, hfind]
    rfl
  exact Std.TreeMap.mem_keys.mpr hcontains

-- ======================================================== the three cases

/-- Where nothing stands, nothing runs. -/
theorem dispatch_of_handler?_eq_none (hnone : h.handler? identifier = none) :
    (h.dispatch files identifier args).value = (.unknownIdentifier identifier, h) := by
  have hfind : h.registry.find? identifier = none := by simpa [handler?] using hnone
  simp [dispatch, Registry.dispatch_of_find?_eq_none hfind]

/-- A handler runs on the world, and is answered for. -/
theorem dispatch_of_handler?_eq_some {handler : Handler}
    (hsome : h.handler? identifier = some handler) :
    (h.dispatch files identifier args).value
      = (.ofOutcome (run files handler args h.world).value.1,
          { h with world := (run files handler args h.world).value.2 }) := by
  obtain ⟨registration, hfind, rfl⟩ := Option.map_eq_some_iff.mp hsome
  simp [dispatch, Registry.dispatch_of_find?_eq_some hfind]

/-- A foreign callback decides how it ends, and remembers that it ran. -/
theorem dispatch_of_foreign {number : Nat} {behaviour : Invocation → Outcome}
    (hforeign : h.handler? identifier = some (.foreign number behaviour)) :
    (h.dispatch files identifier args).value
      = (.ofOutcome (behaviour ⟨args, h.world.ran number⟩),
          { h with world := h.world.call number args }) := by
  rw [dispatch_of_handler?_eq_some files args hforeign]
  rfl

/-- A service's own handler refreshes its policy, whatever the arguments. -/
theorem dispatch_of_serves {number : Nat} {s : Service} {p : Policy}
    (hserves : h.Serves number s p) :
    (h.dispatch files p.identifier args).value
      = (.ofOutcome (s.refresh files p).value.1,
          h.withService number (s.refresh files p).value.2) := by
  have hservice : h.world.services[number]? = some s := hserves.service
  rw [dispatch_of_handler?_eq_some files args hserves.handler]
  simp [run, hservice, withService]

/-- Putting a service in its own place changes nothing. -/
theorem withService_eq_self {number : Nat} {s : Service} (hservice : h.service? number = some s) :
    h.withService number s = h := by
  have hput : h.world.put number s = h.world := by
    obtain ⟨hlt, hget⟩ := List.getElem?_eq_some_iff.mp hservice
    refine World.ext ?_ rfl
    show h.services.set number s = h.services
    rw [← hget, List.set_getElem_self]
  rw [withService, hput]

-- ============================================================== isolation

/-- On any host: a service's own handler changes at most the switch and
the published data of its one policy, and neither that nor the response
depends on the arguments. If the settings cannot be loaded, for whatever
reason, the command fails and the host stays as it is, so every question
has the answer it had; from a file they cannot be loaded if it is broken.
Nothing registered leaves the host as it is too, and so does a foreign
callback however it ends, but for what it remembers of its runs. -/
theorem dispatch_isolated (h : Host) :
    (∀ number s p, h.Serves number s p →
        (∃ t, (h.dispatch files p.identifier args).value.2 = h.withService number t
          ∧ Service.SameBut p s t)
        ∧ (∀ args', (h.dispatch files p.identifier args').value
            = (h.dispatch files p.identifier args).value)
        ∧ ∀ cause, s.source.load files = .error cause →
            (h.dispatch files p.identifier args).value
              = (.failure
                  ("Refresh failed: " ++ ("Configuration unavailable: " ++ cause.message)), h))
      ∧ (∀ path describe cause, (ConfigSource.file path describe).load files = .error cause
          ↔ ConfigSource.Broken files path describe cause)
      ∧ (∀ identifier, h.handler? identifier = none →
          (h.dispatch files identifier args).value = (.unknownIdentifier identifier, h))
      ∧ ∀ identifier number behaviour,
          h.handler? identifier = some (.foreign number behaviour) →
            (h.dispatch files identifier args).value
                = (.ofOutcome (behaviour ⟨args, h.world.ran number⟩),
                    { h with world := h.world.call number args })
              ∧ h.Alike (h.dispatch files identifier args).value.2 := by
  refine ⟨?_, fun _ _ _ => ConfigSource.load_file_eq_error_iff, ?_, ?_⟩
  · intro number s p hserves
    refine ⟨?_, ?_, ?_⟩
    · refine ⟨(s.refresh files p).value.2, ?_, Service.sameBut_refresh files s p⟩
      rw [dispatch_of_serves files args hserves]
    · intro args'
      exact (dispatch_of_serves files args' hserves).trans
        (dispatch_of_serves files args hserves).symm
    · intro cause hload
      have hsame : h.withService number s = h := withService_eq_self hserves.service
      rw [dispatch_of_serves files args hserves, Service.refresh_of_load_eq_error files hload,
        Observed.value_pure, hsame]
      rfl
  · intro identifier hnone
    exact dispatch_of_handler?_eq_none files args hnone
  · intro identifier number behaviour hforeign
    have hvalue := dispatch_of_foreign files args hforeign
    exact ⟨hvalue, by rw [hvalue]; exact ⟨rfl, rfl⟩⟩

end Host

end Warden
