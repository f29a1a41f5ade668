/-
Histories of a host: any commands, in any order, over any files.

# Contents

`Command` lists what can be done to a host, and `after` is the host that
is left when some commands were carried out, each with the files as they
were at that moment. Every host that can come about is one of these.

# What holds throughout

`Sound` is the invariant that the laws about registered services rest
on: a service's own handlers stand under the identifiers of their
policies only, and every service has a source that named a digest
algorithm when it was made. `sound_after` is the induction, one case for
each command. Where own handlers are in place, a refresh command is a
refresh of the service that serves the policy, or touches no service
(`dispatch_cases_serves`).
-/
import Warden.Proofs.Host.Dispatch

namespace Warden

/-- Something that is done to a host. -/
inductive Command where
  | start (source : ConfigSource)
  | register (identifier : String) (number : Nat) (behaviour : Invocation → Outcome)
  | unregister (identifier : String)
  | dispatch (identifier : String) (args : List String)
  | reloadAll
  /-- A policy of a service is reloaded by settings that come with the
  command. -/
  | reload (number : Nat) (config : Config) (policy : Policy)
  | shutdown

namespace Host

/-- Carries out one command. -/
def perform (files : FileSystem) (h : Host) : Command → Observed Host
  | .start source => Prod.snd <$> h.start files source
  | .register identifier number behaviour => h.register identifier number behaviour
  | .unregister identifier => pure (h.unregister identifier).2
  | .dispatch identifier args => Prod.snd <$> h.dispatch files identifier args
  | .reloadAll => Prod.snd <$> h.reloadAll files
  | .reload number config policy =>
    match h.service? number with
    | none => pure h
    | some s => do
      let (_, s) ← s.reload files config policy
      pure (h.withService number s)
  | .shutdown => h.shutdown

/-- The host after some commands, each with the files as they were then. -/
def after (past : List (FileSystem × Command)) : Host :=
  past.foldl (fun h c => (h.perform c.1 c.2).value) new

-- ========================================================= registrations

/-- Own handlers stand under the identifiers of their policies only. -/
def InPlace (r : Registry Handler) : Prop :=
  ∀ identifier number p,
    (r.find? identifier).map (·.handler) = some (.own number p) → identifier = p.identifier

/-- Own handlers stay in their places if one is put in its own. -/
theorem inPlace_insert_own {r : Registry Handler} (hr : InPlace r) (number : Nat) (p : Policy) :
    InPlace (r.insert p.identifier (.own number p)) := by
  intro identifier n q hsome
  rw [Registry.handler_find?_insert] at hsome
  split at hsome
  case isTrue heq =>
    injection hsome with hsome
    injection hsome with _ hp
    rw [← heq, hp]
  case isFalse => exact hr identifier n q hsome

/-- A callback may take the place of any handler. -/
theorem inPlace_insert_foreign {r : Registry Handler} (hr : InPlace r) (identifier : String)
    (number : Nat) (behaviour : Invocation → Outcome) :
    InPlace (r.insert identifier (.foreign number behaviour)) := by
  intro other n q hsome
  rw [Registry.handler_find?_insert] at hsome
  split at hsome
  case isTrue => cases hsome
  case isFalse => exact hr other n q hsome

/-- Taking a handler away moves none of the others. -/
theorem inPlace_unregister {r : Registry Handler} (hr : InPlace r) (identifier : String) :
    InPlace (r.unregister identifier).2 := by
  intro other n q hsome
  rw [Registry.find?_unregister] at hsome
  split at hsome
  case isTrue => cases hsome
  case isFalse => exact hr other n q hsome

/-- Registering a service's handlers is registering one after the other. -/
theorem value_registerOwn (number : Nat) :
    ∀ (policies : List Policy) (r : Registry Handler),
      (registerOwn number policies r).value
        = policies.foldl (fun r p => r.insert p.identifier (.own number p)) r := by
  intro policies
  induction policies with
  | nil => intro r; rfl
  | cons p rest ih => intro r; exact ih (r.insert p.identifier (.own number p))

/-- So all own handlers of a service are in their places. -/
theorem inPlace_registerOwn (number : Nat) :
    ∀ (policies : List Policy) (r : Registry Handler), InPlace r →
      InPlace (registerOwn number policies r).value := by
  intro policies
  induction policies with
  | nil => intro r hr; exact hr
  | cons p rest ih =>
      intro r hr
      exact ih (r.insert p.identifier (.own number p)) (inPlace_insert_own hr number p)

/-- What a start that succeeds makes of a host. -/
theorem value_start {files : FileSystem} {source : ConfigSource} {s : Service}
    (hcreate : (Service.create files source).value = .ok s) (h : Host) :
    (h.start files source).value.1 = .ok (h.services.length, s)
      ∧ (h.start files source).value.2.services = h.services ++ [s]
      ∧ (h.start files source).value.2.registry
        = (registerOwn h.services.length Policy.all h.registry).value := by
  have hsize : h.services.length = h.size := h.world.size_eq
  rw [hsize]
  simp [start, hcreate, World.add]

/-- A service that was just made serves all its policies. -/
theorem serves_start {files : FileSystem} {source : ConfigSource} {s : Service}
    (hcreate : (Service.create files source).value = .ok s) (h : Host) (p : Policy) :
    (h.start files source).value.2.Serves h.services.length s p := by
  obtain ⟨-, hservices, hregistry⟩ := value_start hcreate h
  constructor
  · rw [service?, hservices, List.getElem?_concat_length]
  · unfold handler?
    rw [hregistry]
    cases p <;>
      simp [value_registerOwn, Policy.all, Registry.handler_find?_insert, Policy.identifier]

-- ============================================================ the invariant

/-- Own handlers are in place, and every service was made by its source. -/
structure Sound (h : Host) : Prop where
  inPlace : InPlace h.registry
  founded : ∀ s ∈ h.services, s.source.Founded

theorem sound_new : Sound new where
  inPlace := by intro identifier number p hsome; simp [new] at hsome
  founded := by intro s hs; cases hs

/-- A service is only made if its source names a digest algorithm. -/
theorem founded_of_create {files : FileSystem} {source : ConfigSource} {s : Service}
    (hcreate : (Service.create files source).value = .ok s) : s.source.Founded := by
  obtain ⟨config, algorithm, hload, hname, rfl⟩ := (Service.create_eq_ok_iff files).mp hcreate
  exact ⟨files, config, algorithm, hload, hname⟩

/-- No handler changes where a service's settings come from. -/
theorem source_of_mem_run (files : FileSystem) (handler : Handler) (args : List String)
    {size : Nat} (world : World size) :
    ∀ t ∈ (run files handler args world).value.2.services,
      ∃ s ∈ world.services, t.source = s.source := by
  intro t ht
  cases handler with
  | foreign number behaviour => exact ⟨t, ht, rfl⟩
  | own number p =>
      cases hservice : world.services[number]? with
      | none =>
          simp only [run, hservice] at ht
          exact ⟨t, ht, rfl⟩
      | some s =>
          simp only [run, hservice, Observed.value_bind, Observed.value_pure] at ht
          rcases List.mem_or_eq_of_mem_set ht with hold | rfl
          · exact ⟨t, hold, rfl⟩
          · exact ⟨s, List.mem_of_getElem? hservice, (Service.sameBut_refresh files s p).source⟩

variable (files : FileSystem) {h : Host}

-- ===================================================== one command, then all

/-- A refresh command refreshes the service that serves the policy of its
identifier, or leaves all services and registrations as they are. -/
theorem dispatch_cases_serves (hplace : InPlace h.registry) (identifier : String)
    (args : List String) :
    (∃ n s q, identifier = q.identifier ∧ h.Serves n s q
        ∧ (h.dispatch files identifier args).value.2
          = h.withService n (s.refresh files q).value.2)
      ∨ ((∀ n s q, identifier = q.identifier → ¬ h.Serves n s q)
        ∧ h.Alike (h.dispatch files identifier args).value.2) := by
  by_cases hserved : ∃ n s q, identifier = q.identifier ∧ h.Serves n s q
  case pos =>
    obtain ⟨n, s, q, rfl, hserves⟩ := hserved
    exact Or.inl ⟨n, s, q, rfl, hserves, by rw [dispatch_of_serves files args hserves]⟩
  case neg =>
    refine Or.inr ⟨fun n s q heq hserves => hserved ⟨n, s, q, heq, hserves⟩, ?_⟩
    cases hhandler : h.handler? identifier with
    | none =>
        rw [dispatch_of_handler?_eq_none files args hhandler]
        exact Alike.refl h
    | some handler =>
        cases handler with
        | foreign n behaviour =>
            rw [dispatch_of_foreign files args hhandler]
            exact ⟨rfl, rfl⟩
        | own n q =>
            obtain rfl : identifier = q.identifier := hplace identifier n q hhandler
            obtain ⟨s, hservice⟩ := exists_service_of_handler? hhandler
            exact absurd ⟨n, s, q, rfl, hservice, hhandler⟩ hserved

/-- A refresh command keeps the registry, and the invariant. -/
theorem sound_dispatch (hs : Sound h) (identifier : String) (args : List String) :
    Sound (h.dispatch files identifier args).value.2 := by
  cases hhandler : h.handler? identifier with
  | none => rwa [dispatch_of_handler?_eq_none files args hhandler]
  | some handler =>
      rw [dispatch_of_handler?_eq_some files args hhandler]
      refine ⟨hs.inPlace, fun t ht => ?_⟩
      obtain ⟨s, hmem, hsource⟩ := source_of_mem_run files handler args h.world t ht
      exact hsource ▸ hs.founded s hmem

/-- What one refresh command keeps, several keep. -/
theorem dispatchEach_induction {P : Host → Prop}
    (hstep : ∀ h identifier, P h → P (h.dispatch files identifier []).value.2) :
    ∀ (identifiers : List String) (h : Host), P h →
      P (dispatchEach files identifiers h).value.2 := by
  intro identifiers
  induction identifiers with
  | nil => intro h hP; exact hP
  | cons identifier rest ih => intro h hP; exact ih _ (hstep h identifier hP)

/-- Every command keeps the invariant. -/
theorem sound_perform (hs : Sound h) (c : Command) : Sound (h.perform files c).value := by
  cases c with
  | start source =>
      cases hcreate : (Service.create files source).value with
      | error e => simpa [perform, start, hcreate] using hs
      | ok s =>
          obtain ⟨-, hservices, hregistry⟩ := value_start hcreate h
          show Sound (h.start files source).value.2
          refine ⟨?_, ?_⟩
          · rw [hregistry]
            exact inPlace_registerOwn h.services.length Policy.all h.registry hs.inPlace
          · intro t ht
            rw [hservices] at ht
            rcases List.mem_append.mp ht with hold | hnew
            · exact hs.founded t hold
            · rw [List.mem_singleton.mp hnew]
              exact founded_of_create hcreate
  | register identifier number behaviour =>
      exact ⟨inPlace_insert_foreign hs.inPlace identifier number behaviour, hs.founded⟩
  | unregister identifier => exact ⟨inPlace_unregister hs.inPlace identifier, hs.founded⟩
  | dispatch identifier args => exact sound_dispatch files hs identifier args
  | reloadAll =>
      exact dispatchEach_induction (P := Sound) files
        (fun h identifier hs => sound_dispatch files hs identifier [])
        h.registry.identifiers h hs
  | reload number config p =>
      cases hservice : h.service? number with
      | none => simpa [perform, hservice] using hs
      | some s =>
          simp only [perform, hservice, Observed.value_bind, Observed.value_pure]
          refine ⟨hs.inPlace, fun t ht => ?_⟩
          rcases List.mem_or_eq_of_mem_set ht with hold | rfl
          · exact hs.founded t hold
          · rw [(Service.sameBut_reload files config s p).source]
            exact hs.founded s (List.mem_of_getElem? hservice)
  | shutdown =>
      have hgroups := inPlace_unregister hs.inPlace Policy.groups.identifier
      have hwhitelist := inPlace_unregister hgroups Policy.whitelist.identifier
      have hpasswords := inPlace_unregister hwhitelist Policy.passwords.identifier
      exact ⟨hpasswords, hs.founded⟩

/-- Whatever was done to a host, the invariant holds. -/
theorem sound_after (past : List (FileSystem × Command)) : Sound (after past) := by
  suffices hrun : ∀ h, Sound h →
      Sound (past.foldl (fun h c => (h.perform c.1 c.2).value) h) from hrun new sound_new
  induction past with
  | nil => intro h hs; exact hs
  | cons c rest ih => intro h hs; exact ih _ (sound_perform c.1 hs c.2)

end Host

end Warden
