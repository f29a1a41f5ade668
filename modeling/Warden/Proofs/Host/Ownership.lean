/-
Whose handlers a shutdown removes.

# Contents

A registry does not record who registered what. `Writes` says of a command
that it puts something under an identifier or takes it away, and the own
handler of a service, once it stands there, stands until the next command
that does (`handler?_foldl_eq_own_iff`): another service has another
number, so nothing ever brings it back.

A shutdown goes by the three identifiers of the policies alone
(`handler?_shutdown`). It removes the handlers that the service still owns
together with whatever else stands under these identifiers by then, and
leaves all others in place (`shutdown_goes_by_identifier`).
-/
import Warden.Proofs.Host.Starting

namespace Warden

/-- The command puts a handler under an identifier, or takes it away. -/
def Command.Writes (files : FileSystem) (identifier : String) : Command → Prop
  | .start source =>
    (∃ s, (Service.create files source).value = .ok s) ∧ ∃ p : Policy, p.identifier = identifier
  | .register other _ _ | .unregister other => other = identifier
  | .shutdown => ∃ p : Policy, p.identifier = identifier
  | .dispatch .. | .reloadAll | .reload .. => False

namespace Host

variable {files : FileSystem} {h : Host} {identifier : String} {number : Nat} {p : Policy}

-- ================================================== what a shutdown leaves

theorem registry_shutdown (h : Host) :
    h.shutdown.value.registry
      = (((h.registry.unregister Policy.groups.identifier).2.unregister
          Policy.whitelist.identifier).2.unregister Policy.passwords.identifier).2 := rfl

/-- Nothing is left under the identifiers of the policies. -/
theorem handler?_shutdown (h : Host) (p : Policy) :
    h.shutdown.value.handler? p.identifier = none := by
  unfold handler?
  rw [registry_shutdown]
  simp only [Registry.find?_unregister, Policy.identifier_inj]
  cases p <;> rfl

/-- Everything is left under the others. -/
theorem find?_shutdown (hother : ∀ p : Policy, p.identifier ≠ identifier) :
    h.shutdown.value.registry.find? identifier = h.registry.find? identifier := by
  rw [registry_shutdown]
  simp only [Registry.find?_unregister, if_neg (hother _)]

/-- A dispatch looks at the one registration and at the world. -/
theorem dispatch_congr {r : Registry Handler} (hr : r.Staffed h.size)
    (hfind : r.find? identifier = h.registry.find? identifier) (files : FileSystem)
    (args : List String) :
    let g : Host := { h with registry := r, staffed := hr }
    (g.dispatch files identifier args).notes = (h.dispatch files identifier args).notes
      ∧ (g.dispatch files identifier args).value.1 = (h.dispatch files identifier args).value.1
      ∧ (g.dispatch files identifier args).value.2.services
        = (h.dispatch files identifier args).value.2.services := by
  have hrun : r.dispatch (run files) identifier args h.world
      = h.registry.dispatch (run files) identifier args h.world := by
    unfold Registry.dispatch
    rw [hfind]
  unfold dispatch
  dsimp only
  rw [hrun]
  exact ⟨rfl, rfl, rfl⟩

-- ============================================================== ownership

theorem registry_reloadAll (files : FileSystem) (h : Host) :
    (h.reloadAll files).value.2.registry = h.registry :=
  dispatchEach_induction (P := fun g => g.registry = h.registry) files
    (fun _ _ hkept => hkept) h.registry.identifiers h rfl

/-- A command that does not write an identifier leaves what stands there. -/
theorem handler?_perform {c : Command} (hwrites : ¬ c.Writes files identifier) :
    (h.perform files c).value.handler? identifier = h.handler? identifier := by
  cases c with
  | start source =>
      cases hcreate : (Service.create files source).value with
      | error e => simp [perform, start, hcreate]
      | ok s =>
          refine congrArg (Option.map (·.handler)) ((find?_start hcreate h).2 identifier ?_)
          exact fun p heq => hwrites ⟨⟨s, hcreate⟩, p, heq⟩
  | register other n behaviour =>
      show ((h.registry.insert other (.foreign n behaviour)).find? identifier).map (·.handler) = _
      have hne : ¬ other = identifier := hwrites
      rw [Registry.handler_find?_insert, if_neg hne]
      rfl
  | unregister other =>
      have hne : ¬ other = identifier := hwrites
      show ((h.registry.unregister other).2.find? identifier).map (·.handler) = _
      rw [Registry.find?_unregister, if_neg hne]
      rfl
  | dispatch other args => rfl
  | reloadAll =>
      show ((h.reloadAll files).value.2.registry.find? identifier).map (·.handler) = _
      rw [registry_reloadAll]
      rfl
  | reload n config q =>
      unfold perform
      cases hservice : h.service? n <;> simp only [hservice] <;> rfl
  | shutdown =>
      show (h.shutdown.value.registry.find? identifier).map (·.handler) = _
      rw [find?_shutdown fun p heq => hwrites ⟨p, heq⟩]
      rfl

/-- The only own handlers that a command writes are those of the service
that it starts. -/
theorem start_of_own_perform {c : Command} (hwrites : c.Writes files identifier)
    (hown : (h.perform files c).value.handler? identifier = some (.own number p)) :
    number = h.services.length ∧ ∃ source, c = .start source := by
  cases c with
  | start source =>
      obtain ⟨⟨s, hcreate⟩, q, rfl⟩ := hwrites
      have hstarted : (h.start files source).value.2.handler? q.identifier
          = some (.own number p) := hown
      rw [(find?_start hcreate h).1 q] at hstarted
      injection hstarted with hstarted
      injection hstarted with hnumber
      exact ⟨hnumber.symm, source, rfl⟩
  | register other n behaviour =>
      obtain rfl : other = identifier := hwrites
      have hforeign : ((h.registry.insert other (.foreign n behaviour)).find? other).map (·.handler)
          = some (.own number p) := hown
      rw [Registry.handler_find?_insert, if_pos rfl] at hforeign
      injection hforeign with hforeign
      cases hforeign
  | unregister other =>
      obtain rfl : other = identifier := hwrites
      have hgone : ((h.registry.unregister other).2.find? other).map (·.handler)
          = some (.own number p) := hown
      rw [Registry.find?_unregister, if_pos rfl] at hgone
      cases hgone
  | dispatch other args => exact hwrites.elim
  | reloadAll => exact hwrites.elim
  | reload n config q => exact hwrites.elim
  | shutdown =>
      obtain ⟨q, rfl⟩ := hwrites
      have hgone : h.shutdown.value.handler? q.identifier = some (.own number p) := hown
      rw [handler?_shutdown] at hgone
      cases hgone

/-- Services stay on their host. -/
theorem length_services_perform (files : FileSystem) (h : Host) (c : Command) :
    h.services.length ≤ (h.perform files c).value.services.length := by
  rw [h.world.size_eq, (h.perform files c).value.world.size_eq]
  cases c with
  | start source =>
      cases hcreate : (Service.create files source).value with
      | error e => simp [perform, start, hcreate]
      | ok s => simp [perform, start, hcreate]
  | register identifier n behaviour => exact Nat.le_refl _
  | unregister identifier => exact Nat.le_refl _
  | dispatch identifier args => exact Nat.le_refl _
  | reloadAll =>
      exact dispatchEach_induction (P := fun g => h.size ≤ g.size) files
        (fun g identifier hle => hle) h.registry.identifiers h (Nat.le_refl _)
  | reload n config q =>
      cases hservice : h.service? n with
      | none => simp [perform, hservice]
      | some s => simp [perform, hservice, withService]
  | shutdown => exact Nat.le_refl _

/-- An own handler stays in place until a command writes its identifier. -/
theorem handler?_perform_eq_own_iff (hnumber : number < h.services.length) (c : Command) :
    (h.perform files c).value.handler? identifier = some (.own number p)
      ↔ h.handler? identifier = some (.own number p) ∧ ¬ c.Writes files identifier := by
  by_cases hwrites : c.Writes files identifier
  case pos =>
    refine iff_of_false (fun hown => ?_) fun h => h.2 hwrites
    exact Nat.ne_of_lt hnumber (start_of_own_perform hwrites hown).1
  case neg => simp [hwrites, handler?_perform hwrites]

/-- An own handler stands as long as no command writes its identifier. -/
theorem handler?_foldl_eq_own_iff (later : List (FileSystem × Command)) :
    ∀ h : Host, number < h.services.length →
      ((later.foldl (fun h c => (h.perform c.1 c.2).value) h).handler? identifier
          = some (.own number p)
        ↔ h.handler? identifier = some (.own number p)
            ∧ ∀ c ∈ later, ¬ c.2.Writes c.1 identifier) := by
  induction later with
  | nil => intro h _; simp
  | cons c rest ih =>
      intro h hnumber
      have hlater := Nat.lt_of_lt_of_le hnumber (length_services_perform c.1 h c.2)
      rw [List.foldl_cons, ih _ hlater, handler?_perform_eq_own_iff hnumber, List.forall_mem_cons,
        and_assoc]

-- =============================================================== shutdown

/-- A service was started on a host of any past, and any commands came
after that. It still has its handler of a policy if no later command wrote
the identifier. A shutdown then removes what stands under the identifiers
of the three policies, whoever registered it, and leaves every other
registration in place, to be dispatched as before. So no registration of
anybody else is lost exactly if, under those identifiers, there is none. -/
theorem shutdown_goes_by_identifier (past later : List (FileSystem × Command))
    (files : FileSystem) (source : ConfigSource) {number : Nat} {s : Service}
    (hstart : ((after past).start files source).value.1 = .ok (number, s)) :
    let h := after (past ++ (files, .start source) :: later)
    let left := h.shutdown.value
    (∀ p : Policy, h.handler? p.identifier = some (.own number p)
        ↔ ∀ c ∈ later, ¬ c.2.Writes c.1 p.identifier)
      ∧ (∀ p : Policy, left.handler? p.identifier = none)
      ∧ (∀ identifier, (∀ p : Policy, p.identifier ≠ identifier) →
          left.handler? identifier = h.handler? identifier
            ∧ ∀ files args,
              (left.dispatch files identifier args).notes
                  = (h.dispatch files identifier args).notes
                ∧ (left.dispatch files identifier args).value.1
                  = (h.dispatch files identifier args).value.1
                ∧ (left.dispatch files identifier args).value.2.services
                  = (h.dispatch files identifier args).value.2.services)
      ∧ ((∀ identifier handler, h.handler? identifier = some handler →
            (∀ q, handler ≠ .own number q) → left.handler? identifier = some handler)
          ↔ ∀ (p : Policy) handler, h.handler? p.identifier = some handler →
              ∃ q, handler = .own number q) := by
  intro h left
  obtain ⟨hcreate, rfl⟩ := start_eq_ok_iff.mp hstart
  have hremoved (p : Policy) : left.handler? p.identifier = none := handler?_shutdown h p
  have hleft {identifier : String} (hother : ∀ p : Policy, p.identifier ≠ identifier) :
      left.handler? identifier = h.handler? identifier := by
    show (h.shutdown.value.registry.find? identifier).map (·.handler) = _
    rw [find?_shutdown hother]
    rfl
  have hfold : h = later.foldl (fun h c => (h.perform c.1 c.2).value)
      ((after past).start files source).value.2 := by
    simp [h, after, perform]
  refine ⟨fun p => ?_, hremoved, fun identifier hother => ⟨hleft hother, fun files args => ?_⟩,
    ?_, ?_⟩
  · have hon : (after past).services.length
        < ((after past).start files source).value.2.services.length := by
      rw [(value_start hcreate (after past)).2.1, List.length_append]
      exact Nat.lt_succ_self _
    rw [hfold, handler?_foldl_eq_own_iff later _ hon]
    exact and_iff_right ((find?_start hcreate (after past)).1 p)
  · have hstaffed : left.registry.Staffed h.size := left.staffed
    exact dispatch_congr hstaffed (find?_shutdown hother) files args
  · intro hkept p handler hhandler
    by_contra hforeign
    have hlost := hkept p.identifier handler hhandler fun q heq => hforeign ⟨q, heq⟩
    rw [hremoved p] at hlost
    cases hlost
  · intro howned identifier handler hhandler hforeign
    by_cases hpolicy : ∃ p : Policy, p.identifier = identifier
    case pos =>
      obtain ⟨p, rfl⟩ := hpolicy
      obtain ⟨q, heq⟩ := howned p handler hhandler
      exact absurd heq (hforeign q)
    case neg => rw [hleft fun p heq => hpolicy ⟨p, heq⟩, hhandler]

/-- A service that is alone on its host, and one after which a callback
took one of its identifiers. -/
theorem shutdown_goes_by_identifier_of_one :
    let start := (FileSystem.empty [], Command.start (.fixed {}))
    let taken := (FileSystem.empty [],
      Command.register Policy.passwords.identifier 0 fun _ => .done)
    let s := ((Service.new (.fixed {}) .md5).initialLoad (.empty []) {}).value
    (new.start (.empty []) (.fixed {})).value.1 = .ok (0, s)
      ∧ (∀ p : Policy, (after [start]).handler? p.identifier = some (.own 0 p))
      ∧ (∀ p : Policy, (after [start]).shutdown.value.handler? p.identifier = none)
      ∧ (after [start, taken]).handler? Policy.passwords.identifier ≠ some (.own 0 .passwords)
      ∧ (after [start, taken]).handler? Policy.groups.identifier = some (.own 0 .groups) := by
  intro start taken s
  have hstart : ((after []).start (.empty []) (.fixed {})).value.1 = .ok (0, s) :=
    start_eq_ok_iff.mpr
      ⟨(Service.create_eq_ok_iff _).mpr ⟨{}, .md5, rfl, by decide, rfl⟩, rfl⟩
  obtain ⟨halone, hgone, -⟩ := shutdown_goes_by_identifier [] [] _ _ hstart
  obtain ⟨htaken, -⟩ := shutdown_goes_by_identifier [] [taken] _ _ hstart
  refine ⟨hstart, fun p => ?_, hgone, ?_, ?_⟩
  · exact (halone p).mpr fun c hc => absurd hc List.not_mem_nil
  · intro hown
    exact (htaken .passwords).mp hown taken List.mem_cons_self rfl
  · refine (htaken .groups).mpr fun c hc => ?_
    rw [List.mem_singleton.mp hc]
    show Policy.passwords.identifier ≠ Policy.groups.identifier
    decide

/-- A callback that was registered later in the place of a service's own
handler, and that runs well, is gone after the service's shutdown. So are
the handlers of another service that started on the same host. -/
theorem shutdown_removes_replacement :
    let files := FileSystem.empty []
    let first := (new.start files (.fixed {})).value.2
    let replaced := (first.register Policy.passwords.identifier 0 fun _ => .done).value
    let second := (first.start files (.fixed {})).value.2
    (∃ s, (new.start files (.fixed {})).value.1 = .ok (0, s))
      ∧ (∀ args, (replaced.dispatch files Policy.passwords.identifier args).value.1 = .success)
      ∧ (∀ args, (replaced.shutdown.value.dispatch files Policy.passwords.identifier args).value.1
          = .unknownIdentifier Policy.passwords.identifier)
      ∧ (∃ s, (first.start files (.fixed {})).value.1 = .ok (1, s))
      ∧ ∀ p : Policy, second.handler? p.identifier = some (.own 1 p)
          ∧ second.shutdown.value.handler? p.identifier = none := by
  intro files first replaced second
  have hcreate : ∃ s, (Service.create files (.fixed {})).value = .ok s :=
    ⟨_, (Service.create_eq_ok_iff files).mpr ⟨{}, .md5, rfl, by decide, rfl⟩⟩
  obtain ⟨s, hcreate⟩ := hcreate
  have hfirst : first.services.length = 1 := by
    rw [(value_start hcreate new).2.1]
    rfl
  refine ⟨⟨s, start_eq_ok_iff.mpr ⟨hcreate, rfl⟩⟩, fun args => ?_, fun args => ?_,
    ⟨s, start_eq_ok_iff.mpr ⟨hcreate, hfirst.symm⟩⟩, fun p => ⟨?_, handler?_shutdown second p⟩⟩
  · have hforeign : replaced.handler? Policy.passwords.identifier
        = some (.foreign 0 fun _ => .done) := by
      show ((first.registry.insert _ _).find? _).map (·.handler) = _
      rw [Registry.handler_find?_insert, if_pos rfl]
    rw [dispatch_of_foreign files args hforeign]
    rfl
  · rw [dispatch_of_handler?_eq_none files args (handler?_shutdown replaced .passwords)]
  · have hown := (find?_start hcreate first).1 p
    rwa [hfirst] at hown

end Host

end Warden
