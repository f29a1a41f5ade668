/-
Starting a service: all of it or nothing, and what refreshes find after it.

# All or nothing

A start comes down to making the service (`Service.create`), and that to
two questions to the source: does it give settings, and do they name a
digest algorithm. Where either fails, nothing was noted, read or
registered, and the host is what it was. Where both succeed, the three
identifiers of the policies have new handlers, and all others what they
had (`handler?_start`).

# Rest

A second reload by the same settings and files finds every part of its
policy as the first one left it: a list that settles twice by one source
settles once, and the empty fixed list that was refused is refused again
(`reload_reload`). The first loads are one reload of each policy
(`initialLoad_eq`), so the service is at rest after them: no refresh
changes it while its settings and files stay (`AtRest`), and each refresh
ends as the first load of its policy did.
-/
import Warden.Proofs.Host.Reloading

namespace Warden

-- ========================================================= the same reload

/-- Settling a slot the same way again changes nothing. -/
theorem Slot.settle_settle {α : Type} (s : Slot α) (r : Except LoadError α) :
    (s.settle r).settle r = s.settle r := by
  cases r <;> rfl

/-- Reloading the groups again from the same files changes nothing. -/
theorem Groups.reload_reload (config : GroupsConfig) (files : FileSystem) (g : Groups) :
    ((g.reload config files).value.2.reload config files).value.2
      = (g.reload config files).value.2 := by
  simp only [value_reload, Slot.settle_settle]

/-- Reloading the whitelist again from the same files changes nothing. -/
theorem Whitelist.reload_reload (config : WhitelistConfig) (files : FileSystem) (w : Whitelist) :
    ((w.reload config files).value.2.reload config files).value.2
      = (w.reload config files).value.2 := by
  cases hon : config.enabled with
  | false => simp [reload_off _ _ _ hon]
  | true => simp only [value_reload_on _ _ _ hon, Slot.settle_settle]

/-- Reloading the passwords again from the same files changes nothing. -/
theorem Passwords.reload_reload (config : PasswordConfig) (files : FileSystem) (p : Passwords) :
    ((p.reload config files).value.2.reload config files).value.2
      = (p.reload config files).value.2 := by
  cases hon : config.enabled with
  | false => simp [reload_off _ _ _ hon]
  | true => simp only [value_reload_on _ _ _ hon, Slot.settle_settle]

namespace Service

variable (files : FileSystem) (config : Config) {s t : Service} {p : Policy}

/-- Reloading a policy of a service again from the same files changes
nothing. -/
theorem reload_reload (s : Service) (p : Policy) :
    ((s.reload files config p).value.2.reload files config p).value.2
      = (s.reload files config p).value.2 := by
  cases p with
  | groups =>
      exact congrArg (fun groups => { s with groups })
        (s.groups.reload_reload config.groups files)
  | whitelist =>
      exact congrArg (fun whitelist => { s with whitelist })
        (s.whitelist.reload_reload config.whitelist files)
  | passwords =>
      exact congrArg (fun passwords => { s with passwords })
        (s.passwords.reload_reload config.password files)

/-- Services that differ in one policy at most, and not in that one, are
one service. -/
theorem SameBut.eq (hframe : SameBut p s t) (hsame : SameIn p t s) : t = s := by
  have hgroups : t.groups = s.groups := by
    cases p with
    | groups => exact hsame
    | whitelist => exact hframe.groups (by decide)
    | passwords => exact hframe.groups (by decide)
  have hwhitelist : t.whitelist = s.whitelist := by
    cases p with
    | groups => exact hframe.whitelist (by decide)
    | whitelist => exact hsame
    | passwords => exact hframe.whitelist (by decide)
  have hpasswords : t.passwords = s.passwords := by
    cases p with
    | groups => exact hframe.passwords (by decide)
    | whitelist => exact hframe.passwords (by decide)
    | passwords => exact hsame
  cases s
  cases t
  obtain rfl : _ = _ := hgroups
  obtain rfl : _ = _ := hwhitelist
  obtain rfl : _ = _ := hpasswords
  obtain rfl : _ = _ := hframe.source
  rfl

/-- No reload by these settings and files changes the service. -/
def AtRest (s : Service) : Prop := ∀ p, (s.reload files config p).value.2 = s

/-- After the first loads a service is at rest. -/
theorem atRest_initialLoad (s : Service) :
    AtRest files config (initialLoad files config s).value := by
  intro p
  let t := (initialLoad files config s).value
  have hloaded : SameIn p t (s.reload files config p).value.2 := sameIn_initialLoad files config s p
  have hagain : SameIn p (t.reload files config p).value.2 (s.reload files config p).value.2 := by
    have hsecond := hloaded.reload files config
    rw [reload_reload] at hsecond
    exact hsecond
  refine (sameBut_reload files config t p).eq ?_
  cases p <;> exact hagain.trans (Eq.symm hloaded)

-- ========================================================== the first loads

/-- Reloads policies one after the other, and tells how each reload ended. -/
def reloadEach : List Policy → Service →
    Observed (List (Policy × Except ReloadError Unit) × Service)
  | [], s => pure ([], s)
  | p :: rest, s => do
    let (result, s) ← s.reload files config p
    let (results, s) ← reloadEach rest s
    pure ((p, result) :: results, s)

/-- The first loads are a reload of each policy, whose ends nobody asks for. -/
theorem initialLoad_eq (s : Service) :
    initialLoad files config s = Prod.snd <$> reloadEach files config Policy.all s := by
  simp only [initialLoad, reloadEach, Policy.all, map_bind, map_pure, bind_assoc, pure_bind]

/-- Each of them ends as it would alone. -/
theorem mem_results_reloadEach {result : Except ReloadError Unit} (s : Service) :
    ∀ (policies : List Policy) (t : Service),
      (p, result) ∈ (reloadEach files config policies t).value.1
        ↔ p ∈ policies ∧ result = (s.reload files config p).value.1 := by
  intro policies
  induction policies with
  | nil => intro t; simp [reloadEach]
  | cons q rest ih =>
      intro t
      simp only [reloadEach, Observed.value_bind, Observed.value_pure, List.mem_cons, Prod.mk.injEq,
        ih, result_reload files config t s q]
      constructor
      · rintro (⟨rfl, rfl⟩ | ⟨hmem, rfl⟩)
        · exact ⟨.inl rfl, rfl⟩
        · exact ⟨.inr hmem, rfl⟩
      · rintro ⟨rfl | hmem, rfl⟩
        · exact .inl ⟨rfl, rfl⟩
        · exact .inr ⟨hmem, rfl⟩

/-- A service is not made for want of settings, or of a digest algorithm,
and then nothing is noted; or it is made by its first loads. -/
theorem create_cases (source : ConfigSource) :
    (∃ cause, source.load files = .error cause
        ∧ create files source = pure (.error (.config cause)))
      ∨ (∃ config cause, source.load files = .ok config
        ∧ Algorithm.ofName? config.password.digestAlgorithm = .error cause
        ∧ create files source = pure (.error (.digest cause)))
      ∨ ∃ config algorithm, source.load files = .ok config
        ∧ Algorithm.ofName? config.password.digestAlgorithm = .ok algorithm
        ∧ create files source = .ok <$> initialLoad files config (.new source algorithm) := by
  unfold create
  cases hload : source.load files with
  | error cause => exact .inl ⟨cause, rfl, rfl⟩
  | ok config =>
      dsimp only
      cases hname : Algorithm.ofName? config.password.digestAlgorithm with
      | error cause => exact .inr (.inl ⟨config, cause, rfl, hname, rfl⟩)
      | ok algorithm => exact .inr (.inr ⟨config, algorithm, rfl, hname, rfl⟩)

end Service

/-- Nothing else is registered anew than the one identifier. -/
theorem Registry.find?_insert_of_ne {H : Type} {identifier other : String}
    (hne : identifier ≠ other) (r : Registry H) (handler : H) :
    (r.insert identifier handler).find? other = r.find? other := by
  unfold insert
  split <;> simp [find?, Std.TreeMap.getElem?_insert, hne]

namespace Host

open Service (AtRest reloadEach)

variable {files : FileSystem} {source : ConfigSource} {s : Service}

-- ================================================================= starts

/-- A start that fails does nothing at all. -/
theorem start_of_error {cause : StartupError}
    (hcreate : (Service.create files source).value = .error cause) (h : Host) :
    h.start files source = pure (.error cause, h) := by
  have hnothing : Service.create files source = pure (.error cause) := by
    rcases Service.create_cases files source with
      ⟨e, -, hmade⟩ | ⟨config, e, -, -, hmade⟩ | ⟨config, algorithm, -, -, hmade⟩
    · rw [hmade] at hcreate ⊢
      exact congrArg pure hcreate
    · rw [hmade] at hcreate ⊢
      exact congrArg pure hcreate
    · rw [hmade] at hcreate
      cases hcreate
  unfold start
  rw [hnothing]
  rfl

/-- A start that succeeds adds the service that was made. -/
theorem start_eq_ok_iff {h : Host} {number : Nat} :
    (h.start files source).value.1 = .ok (number, s)
      ↔ (Service.create files source).value = .ok s ∧ number = h.services.length := by
  cases hcreate : (Service.create files source).value with
  | error cause => simp [start_of_error hcreate]
  | ok made =>
      rw [(value_start hcreate h).1]
      simp only [Except.ok.injEq, Prod.mk.injEq]
      constructor
      · rintro ⟨hnumber, hmade⟩
        exact ⟨hmade, hnumber.symm⟩
      · rintro ⟨hmade, hnumber⟩
        exact ⟨hnumber.symm, hmade⟩

/-- A start succeeds by the source and the name of the algorithm alone. -/
theorem exists_start_eq_ok_iff {h : Host} :
    (∃ made, (h.start files source).value.1 = .ok made)
      ↔ ∃ config algorithm, source.load files = .ok config
          ∧ Algorithm.ofName? config.password.digestAlgorithm = .ok algorithm := by
  constructor
  · rintro ⟨⟨number, s⟩, hstart⟩
    obtain ⟨config, algorithm, hload, hname, -⟩ :=
      (Service.create_eq_ok_iff files).mp (start_eq_ok_iff.mp hstart).1
    exact ⟨config, algorithm, hload, hname⟩
  · rintro ⟨config, algorithm, hload, hname⟩
    have hcreate := (Service.create_eq_ok_iff files).mpr ⟨config, algorithm, hload, hname, rfl⟩
    exact ⟨_, start_eq_ok_iff.mpr ⟨hcreate, rfl⟩⟩

/-- A start that succeeds puts its own handlers under the identifiers of
the policies, and nothing anywhere else. -/
theorem find?_start (hcreate : (Service.create files source).value = .ok s) (h : Host) :
    (∀ p : Policy, (h.start files source).value.2.handler? p.identifier
        = some (.own h.services.length p))
      ∧ ∀ identifier, (∀ p : Policy, p.identifier ≠ identifier) →
          (h.start files source).value.2.registry.find? identifier
            = h.registry.find? identifier := by
  refine ⟨fun p => (serves_start hcreate h p).handler, fun identifier hother => ?_⟩
  rw [(value_start hcreate h).2.2, value_registerOwn]
  simp only [Policy.all, List.foldl_cons, List.foldl_nil,
    Registry.find?_insert_of_ne (hother _)]

-- =================================================================== rest

/-- Dispatches of the policies' identifiers, in any order. -/
def afterRefreshes (files : FileSystem) (commands : List (Policy × List String)) (h : Host) :
    Host :=
  commands.foldl (fun h c => (h.dispatch files c.1.identifier c.2).value.2) h

variable {h : Host} {number : Nat} {config : Config}

/-- A refresh of a service at rest leaves the host as it is. -/
theorem dispatch_of_atRest (hrest : AtRest files config s)
    (hload : s.source.load files = .ok config)
    {p : Policy} (hserves : h.Serves number s p) (args : List String) :
    (h.dispatch files p.identifier args).value
      = (.ofOutcome (Service.outcomeOf (s.reload files config p).value.1), h) := by
  have hsame : h.withService number s = h := withService_eq_self hserves.service
  rw [dispatch_of_serves files args hserves, Service.value_refresh_of_load_eq_ok files hload,
    hrest p, hsame]

/-- A service at rest stays as it is under refresh commands. -/
theorem afterRefreshes_of_atRest (hrest : AtRest files config s)
    (hload : s.source.load files = .ok config) (hserves : ∀ p, h.Serves number s p)
    (commands : List (Policy × List String)) : afterRefreshes files commands h = h := by
  unfold afterRefreshes
  induction commands with
  | nil => rfl
  | cons c rest ih =>
      rw [List.foldl_cons, dispatch_of_atRest hrest hload (hserves c.1) c.2]
      exact ih

/-- A start succeeds if its source gives settings and these name a digest
algorithm. Of a file it is enough to give settings, since it only gives
those that do. A start that fails is over without a note: no dataset was
read and nothing measured, and the host is as it was. After a start that
succeeds, the host has one more service, the three identifiers of the
policies have its handlers, and every other identifier has what it had.
Refreshes of the three, in any order and number and with any arguments,
then change nothing on the host, as long as settings and files are those
of the start; each of them succeeds if the first reload of its policy, of
those that made the service, did. -/
theorem start_is_all_or_nothing (files : FileSystem) (source : ConfigSource) (h : Host) :
    ((∃ made, (h.start files source).value.1 = .ok made)
        ↔ ∃ config algorithm, source.load files = .ok config
            ∧ Algorithm.ofName? config.password.digestAlgorithm = .ok algorithm)
      ∧ (∀ path describe, source = .file path describe →
          ((∃ made, (h.start files source).value.1 = .ok made)
              ↔ ∃ config, Config.ofFile files path describe = .ok config)
            ∧ ∀ cause, (h.start files source).value.1 ≠ .error (.digest cause))
      ∧ (∀ cause, (h.start files source).value.1 = .error cause →
          h.start files source = pure (.error cause, h))
      ∧ ∀ number s, (h.start files source).value.1 = .ok (number, s) →
          let started := (h.start files source).value.2
          number = h.services.length ∧ started.services = h.services ++ [s]
            ∧ (∀ p : Policy, started.handler? p.identifier = some (.own number p))
            ∧ (∀ identifier, (∀ p : Policy, p.identifier ≠ identifier) →
                started.registry.find? identifier = h.registry.find? identifier)
            ∧ ∃ config algorithm, source.load files = .ok config
              ∧ Algorithm.ofName? config.password.digestAlgorithm = .ok algorithm
              ∧ let loads := reloadEach files config Policy.all (.new source algorithm)
                s = loads.value.2
                  ∧ ∀ commands : List (Policy × List String),
                    afterRefreshes files commands started = started
                      ∧ ∀ (p : Policy) args,
                        ((afterRefreshes files commands started).dispatch files p.identifier
                            args).value.1.isSuccess = true
                          ↔ (p, .ok ()) ∈ loads.value.1 := by
  refine ⟨exists_start_eq_ok_iff, ?_, ?_, ?_⟩
  · rintro path describe rfl
    refine ⟨?_, fun cause hdigest => ?_⟩
    · rw [exists_start_eq_ok_iff]
      constructor
      · rintro ⟨config, algorithm, hload, -⟩
        exact ⟨config, hload⟩
      · rintro ⟨config, hload⟩
        obtain ⟨algorithm, hname⟩ := Config.digest_of_ofFile hload
        exact ⟨config, algorithm, hload, hname⟩
    · rcases Service.create_cases files (.file path describe) with
        ⟨e, -, hmade⟩ | ⟨config, e, hload, hname, -⟩ | ⟨config, algorithm, -, -, hmade⟩
      · rw [start_of_error (congrArg Observed.value hmade)] at hdigest
        cases hdigest
      · obtain ⟨algorithm, hnamed⟩ := Config.digest_of_ofFile hload
        rw [hname] at hnamed
        cases hnamed
      · rw [(value_start (congrArg Observed.value hmade) h).1] at hdigest
        cases hdigest
  · intro cause herror
    cases hcreate : (Service.create files source).value with
    | error e =>
        rw [start_of_error hcreate] at herror ⊢
        injection herror with herror
        rw [herror]
    | ok s =>
        rw [(value_start hcreate h).1] at herror
        cases herror
  · intro number s hstart started
    obtain ⟨hcreate, hnumber⟩ := start_eq_ok_iff.mp hstart
    obtain ⟨hown, hother⟩ := find?_start hcreate h
    obtain ⟨config, algorithm, hload, hname, hmade⟩ := (Service.create_eq_ok_iff files).mp hcreate
    subst hnumber
    refine ⟨rfl, ?_, hown, hother, config, algorithm, hload, hname, ?_, fun commands => ?_⟩
    · exact (value_start hcreate h).2.1
    · rw [hmade, Service.initialLoad_eq]
      rfl
    · have hserves (p : Policy) : started.Serves h.services.length s p := serves_start hcreate h p
      have hrest : AtRest files config s := hmade ▸ Service.atRest_initialLoad files config _
      have hsource : s.source.load files = .ok config := by
        rw [hmade]
        exact hload
      have hsame := afterRefreshes_of_atRest hrest hsource hserves commands
      refine ⟨hsame, fun p args => ?_⟩
      rw [hsame, dispatch_of_atRest hrest hsource (hserves p) args, Response.isSuccess_ofOutcome,
        Service.outcomeOf_eq_done_iff, Service.mem_results_reloadEach files config s]
      rw [and_iff_right (by cases p <;> decide), eq_comm]

end Host

end Warden
