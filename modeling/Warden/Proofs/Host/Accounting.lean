/-
What commands tell of a service that no other one took over.

# Contents

A service that started last is the only one whose handlers are left in
the registry, and it stays so until another service starts (`Alone`). As
long as it is, each command attempts at most one load of a dataset, that
by the settings which `settings?` says (`Host.attempt?`), and what is told
of the dataset are the accounts of this load (`accounts_perform`). They
begin with the start of the service, which attempts a load of everything
(`accounts_start`).

A refresh command tells of itself, of what its handler did and of how it
ended (`notes_dispatch_of_handler?_eq_some`), so its accounts are those of
its handler, and no callback runs but the one that is registered
(`callsOf_dispatch`).
-/
import Warden.Proofs.Host.Ownership
import Warden.Proofs.Service.Accounting

namespace Warden

/-- The command starts no service, and reloads none but the one of a number. -/
def Command.KeepsTo (number : Nat) : Command → Prop
  | .start _ => False
  | .reload n _ _ => n = number
  | .register .. | .unregister .. | .dispatch .. | .reloadAll | .shutdown => True

/-- The callback that a handler runs when it is given some arguments. -/
def Handler.calls (args : List String) : Handler → List (Nat × List String)
  | .foreign number _ => [(number, args)]
  | .own .. => []

namespace Host

variable (files : FileSystem) {h : Host} {number : Nat} {d : Dataset} {a b : Nat}
  {loads : List (Except LoadError String)} {told : List Note}

-- ============================================================ one dispatch

/-- A dispatch of what nobody registered is logged and measured as unknown. -/
theorem notes_dispatch_of_handler?_eq_none {identifier : String} (args : List String)
    (hnone : h.handler? identifier = none) :
    (h.dispatch files identifier args).notes
      = [.event (.unknownIdentifier identifier),
          .measure (.refreshed none (Response.unknownIdentifier identifier).status)] := by
  have hfind : h.registry.find? identifier = none := by simpa [handler?] using hnone
  simp only [dispatch, Registry.dispatch, hfind]
  rfl

/-- A dispatch is logged when it starts and finishes, and measured with its
status. -/
theorem notes_dispatch_of_handler?_eq_some {identifier : String} (args : List String)
    {handler : Handler} (hsome : h.handler? identifier = some handler) :
    let ran := run files handler args h.world
    let status := (Response.ofOutcome ran.value.1).status
    (h.dispatch files identifier args).notes
      = .event (.refreshStarted identifier args)
          :: (ran.notes ++ (Registry.remarks identifier ran.value.1
            ++ [.event (.refreshFinished identifier status),
              .measure (.refreshed (some identifier) status)])) := by
  obtain ⟨registration, hfind, rfl⟩ := Option.map_eq_some_iff.mp hsome
  simp [dispatch, Registry.dispatch, hfind, Observed.log, Observed.note, Observed.notesOf,
    Observed.count]

/-- A service's own handler tells nothing of commands, and runs no callback. -/
theorem concerns_run_own (n : Nat) (q : Policy) (args : List String) {size : Nat}
    (world : World size) : Concerns (fun _ => True) (run files (.own n q) args world).notes := by
  simp only [run]
  cases world.services[n]? with
  | none => exact concerns_nil
  | some s => exact .append ((s.concerns_refresh files q).mono fun _ _ => trivial) concerns_nil

/-- A handler measures no refresh command by itself. -/
theorem refreshedCommands_run (handler : Handler) (args : List String) {size : Nat}
    (world : World size) : refreshedCommands (run files handler args world).notes = [] := by
  cases handler with
  | foreign n behaviour => rfl
  | own n q => exact (concerns_run_own files n q args world).refreshedCommands_eq

/-- Remarks on how a handler ended are of no dataset. -/
theorem concerns_remarks (identifier : String) (outcome : Outcome) :
    Concerns (fun _ => False) (Registry.remarks identifier outcome) := by
  cases outcome with
  | done => exact concerns_nil
  | failed cause => exact .silent rfl rfl rfl concerns_nil
  | panicked text => exact .silent rfl rfl rfl concerns_nil

/-- A dispatch is told once, by its identifier if that is registered. -/
theorem refreshedCommands_dispatch (h : Host) (identifier : String) (args : List String) :
    (refreshedCommands (h.dispatch files identifier args).notes).map Prod.fst
      = [if h.registry.contains identifier then some identifier else none] := by
  have hcontains : h.registry.contains identifier = (h.handler? identifier).isSome := by
    rw [Registry.contains_eq_isSome, handler?, Option.isSome_map]
  rw [hcontains]
  cases hhandler : h.handler? identifier with
  | none => rw [notes_dispatch_of_handler?_eq_none files args hhandler]; rfl
  | some handler =>
      rw [notes_dispatch_of_handler?_eq_some files args hhandler, ← List.singleton_append]
      simp only [refreshedCommands_append, refreshedCommands_run,
        (concerns_remarks ..).refreshedCommands_eq]
      rfl

/-- The only callback that a dispatch runs is the one that is registered. -/
theorem callsOf_dispatch {identifier : String} (args : List String) {handler : Handler}
    (hsome : h.handler? identifier = some handler) :
    callsOf (h.dispatch files identifier args).notes = handler.calls args := by
  rw [notes_dispatch_of_handler?_eq_some files args hsome, ← List.singleton_append]
  simp only [callsOf_append, (concerns_remarks ..).callsOf_eq]
  cases handler with
  | foreign n behaviour => rfl
  | own n q =>
      rw [(concerns_run_own files n q args h.world).callsOf_eq]
      rfl

theorem notes_dispatchEach_cons (identifier : String) (rest : List String) (h : Host) :
    (dispatchEach files (identifier :: rest) h).notes
      = (h.dispatch files identifier []).notes
        ++ (dispatchEach files rest (h.dispatch files identifier []).value.2).notes := by
  simp [dispatchEach]

/-- Of a dataset, a dispatch tells what its handler does. -/
theorem accounts_dispatch_of_run {identifier : String} {args : List String} {handler : Handler}
    (hsome : h.handler? identifier = some handler)
    (hrun : Accounts d a b loads (run files handler args h.world).notes) :
    Accounts d a b loads (h.dispatch files identifier args).notes := by
  rw [notes_dispatch_of_handler?_eq_some files args hsome]
  refine .silent rfl (hrun.append_silent ?_)
  refine .silent_append (accounts_of_concerns (concerns_remarks ..) id b) ?_
  exact .silent rfl (.silent rfl .nil)

-- ===================================================== one service at work

/-- The service of a number is the only one with own handlers left. -/
structure Alone (h : Host) (number : Nat) : Prop where
  sound : Sound h
  present : number < h.services.length
  owner : ∀ identifier n p, h.handler? identifier = some (.own n p) → n = number

/-- The load of a dataset of a service that a command attempts, if any. -/
def attempt? (h : Host) (number : Nat) (d : Dataset) (c : Command) :
    Option (Except LoadError String) :=
  (h.settings? files number d.policy c).bind (Dataset.attempt? files · d)

/-- A dispatch attempts a dataset if it refreshes the policy of it. -/
theorem attempt?_dispatch (h : Host) (identifier : String) (args : List String) :
    h.attempt? files number d (.dispatch identifier args)
      = (if identifier = d.policy.identifier then h.refreshSettings? files number d.policy
        else none).bind (Dataset.attempt? files · d) := rfl

/-- A callback attempts no dataset of a service. -/
theorem attempt?_dispatch_of_not_own {identifier : String} (args : List String)
    (hnot : ∀ q, h.handler? identifier ≠ some (.own number q)) :
    h.attempt? files number d (.dispatch identifier args) = none := by
  rw [attempt?_dispatch]
  split
  case isFalse => rfl
  case isTrue heq =>
    subst heq
    unfold refreshSettings?
    rw [if_neg fun hown => hnot d.policy (any_isOwn.mp hown)]
    rfl

/-- An own handler attempts the datasets of its policy that are in use. -/
theorem attempt?_dispatch_of_serves {s : Service} {q : Policy} (args : List String)
    (hserves : h.Serves number s q) :
    (h.attempt? files number d (.dispatch q.identifier args)).toList
      = if d.policy = q then
          ((s.source.load files).toOption.bind (Dataset.attempt? files · d)).toList
        else [] := by
  rw [attempt?_dispatch]
  by_cases hq : d.policy = q
  · subst hq
    rw [if_pos rfl, if_pos rfl, hserves.refreshSettings?]
  · rw [if_neg hq, if_neg fun heq => hq (Policy.identifier_inj.mp heq).symm]
    rfl

/-- A dispatch is accounted for as the attempts that it makes. -/
theorem accounts_dispatch (halone : h.Alone number) (d : Dataset) (identifier : String)
    (args : List String) :
    Accounts d ((h.serviceAt number).size d)
      (((h.dispatch files identifier args).value.2.serviceAt number).size d)
      (h.attempt? files number d (.dispatch identifier args)).toList
      (h.dispatch files identifier args).notes := by
  cases hhandler : h.handler? identifier with
  | none =>
      have hnot (q : Policy) : h.handler? identifier ≠ some (.own number q) := by simp [hhandler]
      rw [attempt?_dispatch_of_not_own files args hnot,
        dispatch_of_handler?_eq_none files args hhandler,
        notes_dispatch_of_handler?_eq_none files args hhandler]
      exact Accounts.silent rfl (Accounts.silent rfl .nil)
  | some handler =>
      refine accounts_dispatch_of_run files hhandler ?_
      cases handler with
      | foreign n behaviour =>
          have hnot (q : Policy) : h.handler? identifier ≠ some (.own number q) := by
            simp [hhandler]
          rw [attempt?_dispatch_of_not_own files args hnot, dispatch_of_foreign files args hhandler]
          exact Accounts.silent rfl .nil
      | own n q =>
          obtain rfl : n = number := halone.owner identifier n q hhandler
          obtain rfl : identifier = q.identifier := halone.sound.inPlace identifier n q hhandler
          have hserves : h.Serves n (h.serviceAt n) q :=
            ⟨service?_eq_some_serviceAt (by simp [service?, halone.present]), hhandler⟩
          have hservice : h.world.services[n]? = some (h.serviceAt n) := hserves.service
          have hnotes : (run files (.own n q) args h.world).notes
              = ((h.serviceAt n).refresh files q).notes := by simp [run, hservice]
          rw [dispatch_of_serves files args hserves, hnotes,
            attempt?_dispatch_of_serves files args hserves, serviceAt_withService hserves.service,
            if_pos rfl]
          exact Service.accounts_refresh files (h.serviceAt n) q d

/-- A dispatch leaves a service alone on its host. -/
theorem Alone.dispatch (halone : h.Alone number) (identifier : String) (args : List String) :
    (h.dispatch files identifier args).value.2.Alone number where
  sound := sound_dispatch files halone.sound identifier args
  present := Nat.lt_of_lt_of_le halone.present
    (length_services_perform files h (.dispatch identifier args))
  owner := halone.owner

/-- A row of refresh commands, each identifier once. -/
theorem accounts_dispatchEach (d : Dataset) :
    ∀ (identifiers : List String) (h : Host), identifiers.Nodup → h.Alone number →
      Accounts d ((h.serviceAt number).size d)
        (((dispatchEach files identifiers h).value.2.serviceAt number).size d)
        ((if d.policy.identifier ∈ identifiers then h.refreshSettings? files number d.policy
          else none).bind (Dataset.attempt? files · d)).toList
        (dispatchEach files identifiers h).notes := by
  intro identifiers
  induction identifiers with
  | nil => intro h _ _; exact .nil
  | cons identifier rest ih =>
      intro h hnodup halone
      obtain ⟨hfirst, hrest⟩ := List.nodup_cons.mp hnodup
      have hstep := accounts_dispatch files halone d identifier []
      have hlater := ih _ hrest (halone.dispatch files identifier [])
      rw [refreshSettings?_dispatch files halone.sound.inPlace] at hlater
      have hboth := hstep.append (hlater.append_silent .nil)
      rw [attempt?_dispatch] at hboth
      -- The identifier comes once: it is this one, or among the rest.
      by_cases heq : identifier = d.policy.identifier
      · subst heq
        rw [if_pos rfl, if_neg hfirst, Option.bind_none, Option.toList_none, List.append_nil]
          at hboth
        rw [if_pos List.mem_cons_self]
        exact hboth
      · have hmem : d.policy.identifier ∈ identifier :: rest ↔ d.policy.identifier ∈ rest := by
          simp [Ne.symm heq]
        rw [if_neg heq, Option.bind_none, Option.toList_none, List.nil_append] at hboth
        simp only [hmem]
        exact hboth

-- ============================================================= any command

/-- A command that keeps to the service leaves it alone on its host. -/
theorem Alone.perform (halone : h.Alone number) {c : Command} (hc : c.KeepsTo number) :
    (h.perform files c).value.Alone number where
  sound := sound_perform files halone.sound c
  present := Nat.lt_of_lt_of_le halone.present (length_services_perform files h c)
  owner := by
    intro identifier n p hown
    by_cases hwrites : c.Writes files identifier
    case pos =>
      obtain ⟨-, source, rfl⟩ := start_of_own_perform hwrites hown
      exact hc.elim
    case neg => exact halone.owner identifier n p (handler?_perform hwrites ▸ hown)

/-- A reload puts the reloaded service in its place. -/
theorem perform_reload {n : Nat} {s : Service} (hservice : h.service? n = some s) (config : Config)
    (q : Policy) :
    h.perform files (.reload n config q)
      = (fun r => h.withService n r.2) <$> s.reload files config q := by
  simp [perform, hservice]

/-- Of each dataset, a command tells what it does to it. -/
theorem accounts_perform (halone : h.Alone number) (d : Dataset) {c : Command}
    (hc : c.KeepsTo number) :
    Accounts d ((h.serviceAt number).size d) (((h.perform files c).value.serviceAt number).size d)
      (h.attempt? files number d c).toList (h.perform files c).notes := by
  cases c with
  | start source => exact hc.elim
  | register identifier n behaviour =>
      exact Accounts.silent rfl .nil
  | unregister identifier => exact .nil
  | dispatch identifier args =>
      have hnotes : (h.perform files (.dispatch identifier args)).notes
          = (h.dispatch files identifier args).notes := Observed.notes_map _ _
      rw [hnotes]
      exact accounts_dispatch files halone d identifier args
  | reloadAll =>
      have hnotes : (h.perform files .reloadAll).notes = (h.reloadAll files).notes :=
        Observed.notes_map _ _
      have hrow := accounts_dispatchEach files d h.registry.identifiers h
        Std.TreeMap.nodup_keys halone
      rw [refreshSettings?_of_identifiers] at hrow
      rw [hnotes]
      exact hrow
  | reload n config q =>
      obtain rfl : n = number := hc
      have hservice : h.service? n = some (h.serviceAt n) :=
        service?_eq_some_serviceAt (by simp [service?, halone.present])
      have hloads : (h.attempt? files n d (.reload n config q)).toList
          = if d.policy = q then (d.attempt? files config).toList else [] := by
        unfold attempt? settings?
        by_cases hq : d.policy = q
        · simp [hq, hservice]
        · simp [hq, Ne.symm hq]
      rw [perform_reload files hservice, hloads, Observed.notes_map, Observed.value_map,
        serviceAt_withService hservice, if_pos rfl]
      exact Service.accounts_reload files config (h.serviceAt n) q d
  | shutdown => exact Accounts.silent rfl .nil

-- ================================================================ a start

/-- Registering tells of no dataset. -/
theorem concerns_registerOwn (number : Nat) :
    ∀ (policies : List Policy) (r : Registry Handler),
      Concerns (fun _ => False) (registerOwn number policies r).notes := by
  intro policies
  induction policies with
  | nil => intro r; exact concerns_nil
  | cons p rest ih => intro r; exact .silent rfl rfl rfl (ih _)

/-- A start tells of the first loads, and then of its registrations. -/
theorem notes_start {source : ConfigSource} {config : Config} {algorithm : Algorithm}
    (hload : source.load files = .ok config)
    (hname : Algorithm.ofName? config.password.digestAlgorithm = .ok algorithm) (h : Host) :
    ∃ registered, Concerns (fun _ => False) registered
      ∧ (h.start files source).notes
        = (Service.initialLoad files config (.new source algorithm)).notes ++ registered := by
  have hcreate : Service.create files source
      = .ok <$> Service.initialLoad files config (.new source algorithm) := by
    simp [Service.create, hload, hname]
  let registry := registerOwn h.size Policy.all h.registry
  refine ⟨registry.notes ++ [.event (.initialized registry.value.identifiers)], ?_, ?_⟩
  · exact (concerns_registerOwn ..).append (.silent rfl rfl rfl concerns_nil)
  · simp [start, hcreate, registry, Observed.log, Observed.note, Observed.notesOf]

/-- A start attempts a load of each dataset, and had none of it before. -/
theorem accounts_start {source : ConfigSource} {s : Service}
    (hcreate : (Service.create files source).value = .ok s) (h : Host) (d : Dataset) :
    Accounts d 0 (((h.start files source).value.2.serviceAt h.services.length).size d)
      (h.attempt? files h.services.length d (.start source)).toList
      (h.start files source).notes := by
  obtain ⟨config, algorithm, hload, hname, rfl⟩ := (Service.create_eq_ok_iff files).mp hcreate
  obtain ⟨registered, hregistered, hnotes⟩ := notes_start files hload hname h
  have hloads : (h.attempt? files h.services.length d (.start source)).toList
      = (d.attempt? files config).toList := by
    simp [attempt?, settings?, hcreate, hload, Except.toOption]
  have hempty : (Service.new source algorithm).size d = 0 := by cases d <;> rfl
  have hfirst := Service.accounts_initialLoad files config (.new source algorithm) d
  rw [hempty] at hfirst
  rw [serviceAt_start files hcreate, if_pos rfl, hloads, hnotes]
  exact hfirst.append_silent (accounts_of_concerns hregistered id _)

/-- The service that started last is the only one with own handlers left. -/
theorem alone_start {source : ConfigSource} {s : Service}
    (hcreate : (Service.create files source).value = .ok s) (hsound : Sound h) :
    (h.start files source).value.2.Alone h.services.length := by
  have hplace : Sound (h.start files source).value.2 := sound_perform files hsound (.start source)
  refine ⟨hplace, by simp [(value_start hcreate h).2.1], fun identifier n p hown => ?_⟩
  obtain rfl := hplace.inPlace identifier n p hown
  rw [(find?_start hcreate h).1 p] at hown
  injection hown with hown
  injection hown with hnumber
  exact hnumber.symm

end Host

end Warden
