/-
A refresh that succeeds forgets what came before it.

# Contents

On a host where a service's own handlers are in place, an identifier is
either that of a policy, and its command a refresh of that policy, or its
command touches no service (`dispatch_cases`). So a row of commands
comes down to refreshes of the one service, `Refreshes` says what is
known after it, and `refreshes_dispatchEach` is the induction over the
row: a policy that is named twice is refreshed twice, to the same end.

`dispatch_forgets` compares two services that share nothing but their
source. Of a service whose three policies are refreshed, a fresh service
is the second of the two (`agreesOn_create`); that one can be made at all
takes a source that still names a digest algorithm.
-/
import Warden.Proofs.Host.Starting

namespace Warden

namespace Host

open Service (AgreesOn SameBut)

variable (files : FileSystem) {h : Host} {number : Nat} {s t : Service} {p : Policy}

-- ======================================================== serving a policy

/-- A service that is replaced goes on to serve. -/
theorem Serves.withService (hserves : h.Serves number s p) (t : Service) :
    (h.withService number t).Serves number t p := by
  have hservice : h.services[number]? = some s := hserves.service
  obtain ⟨hlt, -⟩ := List.getElem?_eq_some_iff.mp hservice
  refine ⟨?_, hserves.handler⟩
  show (h.services.set number t)[number]? = some t
  rw [List.getElem?_set_self hlt]

/-- Where one service serves all policies, a command is a refresh of one
of them, or touches no service. -/
theorem dispatch_cases (hplace : InPlace h.registry) (hserves : ∀ p, h.Serves number s p)
    (identifier : String) (args : List String) :
    (∃ p : Policy, identifier = p.identifier
        ∧ (h.dispatch files identifier args).value
          = (.ofOutcome (s.refresh files p).value.1,
              h.withService number (s.refresh files p).value.2))
      ∨ ((∀ p : Policy, p.identifier ≠ identifier)
        ∧ h.Alike (h.dispatch files identifier args).value.2) := by
  rcases dispatch_cases_serves files hplace identifier args with
    ⟨-, -, q, rfl, -, -⟩ | ⟨hunserved, halike⟩
  · exact Or.inl ⟨q, rfl, dispatch_of_serves files args (hserves q)⟩
  · exact Or.inr ⟨fun p heq => hunserved number s p heq.symm (hserves p), halike⟩

-- ====================================================== a row of commands

/-- What is known of a service after a row of commands: the policies that
were named were refreshed and answered for, and the others still answer
as they did. -/
structure Refreshes (identifiers : List String) (responses : List (String × Response))
    (s t : Service) : Prop where
  source : t.source = s.source
  algorithm : t.passwords.algorithm = s.passwords.algorithm
  unnamed : ∀ p : Policy, p.identifier ∉ identifiers → AgreesOn p t s
  answered : ∀ p : Policy, p.identifier ∈ identifiers →
    (p.identifier, Response.ofOutcome (s.refresh files p).value.1) ∈ responses
  named : ∀ p : Policy, p.identifier ∈ identifiers → (s.refresh files p).value.1 = .done →
    AgreesOn p t (s.refresh files p).value.2

/-- A row that starts with an identifier of no policy is as good as the
rest of it. -/
theorem Refreshes.cons_foreign {identifier : String} {identifiers : List String}
    {response : Response} {responses : List (String × Response)}
    (hforeign : ∀ p : Policy, p.identifier ≠ identifier)
    (hrest : Refreshes files identifiers responses s t) :
    Refreshes files (identifier :: identifiers) ((identifier, response) :: responses) s t where
  source := hrest.source
  algorithm := hrest.algorithm
  unnamed := by
    intro p hp
    exact hrest.unnamed p fun hmem => hp (List.mem_cons_of_mem _ hmem)
  answered := by
    intro p hp
    rcases List.mem_cons.mp hp with heq | hmem
    · exact absurd heq (hforeign p)
    · exact List.mem_cons_of_mem _ (hrest.answered p hmem)
  named := by
    intro p hp
    rcases List.mem_cons.mp hp with heq | hmem
    · exact absurd heq (hforeign p)
    · exact hrest.named p hmem

/-- A row that starts with a policy refreshes it first. Where the policy
is named again later on, the second refresh ends like the first; where it
is not, nothing later touches it. -/
theorem Refreshes.cons_own {identifiers : List String} {responses : List (String × Response)}
    (q : Policy)
    (hrest : Refreshes files identifiers responses (s.refresh files q).value.2 t) :
    Refreshes files (q.identifier :: identifiers)
      ((q.identifier, .ofOutcome (s.refresh files q).value.1) :: responses) s t := by
  have hframe : SameBut q s (s.refresh files q).value.2 := Service.sameBut_refresh files s q
  have houtcome (p : Policy) : ((s.refresh files q).value.2.refresh files p).value.1
      = (s.refresh files p).value.1 := Service.outcome_refresh files hframe.source p
  refine ⟨hrest.source.trans hframe.source, hrest.algorithm.trans hframe.algorithm, ?_, ?_, ?_⟩
  · intro p hp
    obtain ⟨hne, hmem⟩ := not_or.mp (mt List.mem_cons.mpr hp)
    have hother : q ≠ p := fun heq => hne (congrArg Policy.identifier heq.symm)
    exact (hrest.unnamed p hmem).trans (hframe.agreesOn hother)
  · intro p hp
    by_cases hmem : p.identifier ∈ identifiers
    case pos =>
      have hanswer := hrest.answered p hmem
      rw [houtcome p] at hanswer
      exact List.mem_cons_of_mem _ hanswer
    case neg =>
      rcases List.mem_cons.mp hp with heq | hlater
      · rw [Policy.identifier_inj.mp heq]
        exact List.mem_cons_self
      · exact absurd hlater hmem
  · intro p hp hdone
    by_cases hmem : p.identifier ∈ identifiers
    case pos =>
      have hagain : ((s.refresh files q).value.2.refresh files p).value.1 = .done :=
        (houtcome p).trans hdone
      exact (hrest.named p hmem hagain).trans
        (Service.agreesOn_refresh files hframe.source hframe.algorithm hagain)
    case neg =>
      rcases List.mem_cons.mp hp with heq | hlater
      · rw [Policy.identifier_inj.mp heq]
        rw [Policy.identifier_inj.mp heq] at hmem
        exact hrest.unnamed q hmem
      · exact absurd hlater hmem

/-- The induction over a row of commands; each of them keeps the registry
and leaves a service that serves all policies. -/
theorem refreshes_dispatchEach :
    ∀ (identifiers : List String) (h : Host) (s : Service), InPlace h.registry →
      (∀ p, h.Serves number s p) →
      ∃ t, (∀ p, (dispatchEach files identifiers h).value.2.Serves number t p)
        ∧ Refreshes files identifiers (dispatchEach files identifiers h).value.1 s t := by
  intro identifiers
  induction identifiers with
  | nil =>
      intro h s _ hserves
      refine ⟨s, hserves, rfl, rfl, fun p _ => AgreesOn.refl p s, fun p hp => ?_, fun p hp => ?_⟩
      · cases hp
      · cases hp
  | cons identifier rest ih =>
      intro h s hplace hserves
      simp only [dispatchEach, Observed.value_bind, Observed.value_pure]
      rcases dispatch_cases files hplace hserves identifier [] with
        ⟨q, rfl, hown⟩ | ⟨hforeign, halike⟩
      · rw [hown]
        obtain ⟨t, hserved, hrest⟩ := ih (h.withService number (s.refresh files q).value.2)
          (s.refresh files q).value.2 hplace fun p => (hserves p).withService _
        exact ⟨t, hserved, hrest.cons_own files q⟩
      · obtain ⟨t, hserved, hrest⟩ := ih (h.dispatch files identifier []).value.2 s hplace
          fun p => halike.serves (hserves p)
        exact ⟨t, hserved, hrest.cons_foreign files hforeign⟩

-- ========================================================= two histories

/-- Refreshing a policy of two services with one source ends alike in
both, and where it is done the policy answers alike. -/
theorem dispatch_forgets {h' : Host} {number' : Nat} {s' : Service}
    (hserves : h.Serves number s p) (hserves' : h'.Serves number' s' p)
    (hsource : s.source = s'.source) (args args' : List String) :
    ∃ outcome t t',
      (h.dispatch files p.identifier args).value = (.ofOutcome outcome, h.withService number t)
        ∧ (h'.dispatch files p.identifier args').value
          = (.ofOutcome outcome, h'.withService number' t')
        ∧ (outcome = .done → AgreesOn p t t') := by
  refine ⟨(s.refresh files p).value.1, (s.refresh files p).value.2,
    (s'.refresh files p).value.2, ?_, ?_, ?_⟩
  · exact dispatch_of_serves files args hserves
  · rw [Service.outcome_refresh files hsource p]
    exact dispatch_of_serves files args' hserves'
  · intro hdone
    -- There is one digest algorithm, so the two services have the same.
    have halgorithm : s.passwords.algorithm = s'.passwords.algorithm := rfl
    exact Service.agreesOn_refresh files hsource halgorithm hdone

/-- Once a refresh of a service is done, a usable source could make the
service anew. -/
theorem exists_create (husable : s.source.Usable)
    (hdone : (s.refresh files p).value.1 = .done) :
    ∃ fresh, (Service.create files s.source).value = .ok fresh := by
  obtain ⟨config, hload, -, -⟩ := Service.load_eq_ok_of_refresh_eq_done files hdone
  obtain ⟨algorithm, hname⟩ := husable files config hload
  exact ⟨_, (Service.create_eq_ok_iff files).mpr ⟨config, algorithm, hload, hname, rfl⟩⟩

/-- Then every policy whose refresh is done answers as that of the new
service. -/
theorem agreesOn_create {fresh : Service}
    (hcreate : (Service.create files s.source).value = .ok fresh)
    (hdone : (s.refresh files p).value.1 = .done) :
    AgreesOn p (s.refresh files p).value.2 fresh := by
  obtain ⟨config, algorithm, hload, -, rfl⟩ := (Service.create_eq_ok_iff files).mp hcreate
  obtain ⟨config', hload', hok, hnext⟩ := Service.load_eq_ok_of_refresh_eq_done files hdone
  obtain rfl : config' = config := by
    rw [hload] at hload'
    injection hload' with heq
    exact heq.symm
  rw [hnext]
  exact Service.agreesOn_initialLoad files config' rfl hok

/-- Two services with their own handlers in place, after any histories of
their hosts, that share their source. By the same files, whatever the
arguments: refreshing a policy ends alike in both, with the same failures
if it fails, and if it is done the policy answers alike. If refreshing
everything succeeds for the three policies, the old service answers every
question as each service does that is started, on any host, from that
source and those files. One can be started there as long as the source
names a digest algorithm, as every file does and a configuration in memory
that the service was made by. -/
theorem refresh_erases_history (files : FileSystem) (past₁ past₂ : List (FileSystem × Command))
    {n₁ n₂ : Nat} {s₁ s₂ : Service} (h₁ : ∀ p, (after past₁).Serves n₁ s₁ p)
    (h₂ : ∀ p, (after past₂).Serves n₂ s₂ p) (hsource : s₁.source = s₂.source) :
    (∀ (p : Policy) args₁ args₂, ∃ outcome t₁ t₂,
        ((after past₁).dispatch files p.identifier args₁).value
            = (.ofOutcome outcome, (after past₁).withService n₁ t₁)
          ∧ ((after past₂).dispatch files p.identifier args₂).value
            = (.ofOutcome outcome, (after past₂).withService n₂ t₂)
          ∧ (outcome = .done → AgreesOn p t₁ t₂))
      ∧ ((∀ (p : Policy) response,
            (p.identifier, response) ∈ ((after past₁).reloadAll files).value.1 →
              response.isSuccess = true) →
          ∃ t, ((after past₁).reloadAll files).value.2.service? n₁ = some t
            ∧ (∀ (other : Host) number fresh,
                (other.start files s₁.source).value.1 = .ok (number, fresh) →
                  ∀ p, AgreesOn p t fresh)
            ∧ (s₁.source.Usable → ∃ fresh, ∀ other : Host,
                (other.start files s₁.source).value.1 = .ok (other.services.length, fresh)))
      ∧ (∀ path describe, (ConfigSource.file path describe).Usable)
      ∧ ∀ config, s₁.source = .fixed config → s₁.source.Usable := by
  refine ⟨fun p args₁ args₂ => dispatch_forgets files (h₁ p) (h₂ p) hsource args₁ args₂, ?_,
    ConfigSource.usable_file, ?_⟩
  case refine_2 =>
    intro config hfixed
    have hfounded : s₁.source.Founded :=
      (sound_after past₁).founded s₁ (List.mem_of_getElem? (h₁ .groups).service)
    rw [hfixed] at hfounded ⊢
    exact hfounded.usable_fixed
  intro hsuccess
  have hsound : Sound (after past₁) := sound_after past₁
  obtain ⟨t, hserved, hrefreshes⟩ := refreshes_dispatchEach files
    (after past₁).registry.identifiers (after past₁) s₁ hsound.inPlace h₁
  have hmem (p : Policy) : p.identifier ∈ (after past₁).registry.identifiers :=
    (h₁ p).mem_identifiers
  have hdone (p : Policy) : (s₁.refresh files p).value.1 = .done :=
    (Response.isSuccess_ofOutcome _).mp (hsuccess p _ (hrefreshes.answered p (hmem p)))
  refine ⟨t, (hserved .groups).service, ?_, ?_⟩
  · intro other number fresh hstart p
    have hcreate : (Service.create files s₁.source).value = .ok fresh := (start_eq_ok_iff.mp hstart).1
    exact (hrefreshes.named p (hmem p) (hdone p)).trans (agreesOn_create files hcreate (hdone p))
  · intro husable
    obtain ⟨fresh, hcreate⟩ := exists_create files husable (hdone .groups)
    exact ⟨fresh, fun other => start_eq_ok_iff.mpr ⟨hcreate, rfl⟩⟩

/-- A service that just started and one whose whitelist was switched on
meanwhile, without any list, decide differently until they are
refreshed. -/
theorem refresh_erases_switch :
    let old := FileSystem.empty ["old"]
    let on : Config := { whitelist := { enabled := true } }
    let past₁ := [(FileSystem.empty [], Command.start (.fixed {}))]
    let past₂ := [(old, Command.start (.fixed {})), (old, .reload 0 on .whitelist)]
    let unloaded := Service.new (.fixed {}) .md5
    let s₁ := (unloaded.initialLoad (.empty []) {}).value
    let s₂ := ((unloaded.initialLoad old {}).value.reload old on .whitelist).value.2
    (∀ p, (after past₁).Serves 0 s₁ p) ∧ (∀ p, (after past₂).Serves 0 s₂ p)
      ∧ s₁.source = s₂.source
      ∧ s₁.whitelist.check "10.0.0.1" "ann" = .ok ()
      ∧ s₂.whitelist.check "10.0.0.1" "ann" = .error (.unknownAddress "10.0.0.1" "ann")
      ∧ ∃ t₁ t₂,
        ((after past₁).dispatch old "REFRESH_WHITE_LIST" []).value
            = (.success, (after past₁).withService 0 t₁)
          ∧ ((after past₂).dispatch old "REFRESH_WHITE_LIST" []).value
            = (.success, (after past₂).withService 0 t₂)
          ∧ AgreesOn .whitelist t₁ t₂ := by
  intro old on past₁ past₂ unloaded s₁ s₂
  have hcreate (files : FileSystem) : (Service.create files (.fixed {})).value
      = .ok (unloaded.initialLoad files {}).value :=
    (Service.create_eq_ok_iff files).mpr ⟨{}, .md5, rfl, by decide, rfl⟩
  have h₁ (p : Policy) : (after past₁).Serves 0 s₁ p := serves_start (hcreate (.empty [])) new p
  have h₂ (p : Policy) : (after past₂).Serves 0 s₂ p := by
    have hafter : after past₂ = (new.start old (.fixed {})).value.2.withService 0 s₂ := rfl
    rw [hafter]
    exact (serves_start (hcreate old) new p).withService s₂
  refine ⟨h₁, h₂, rfl, rfl, rfl, ?_⟩
  obtain ⟨outcome, t₁, t₂, hfirst, hsecond, hagree⟩ :=
    (refresh_erases_history old past₁ past₂ h₁ h₂ rfl).1 .whitelist [] []
  have hresponse : Response.ofOutcome outcome = .success :=
    congrArg Prod.fst (hfirst.symm.trans (dispatch_of_serves old [] (h₁ .whitelist)))
  have hdone : outcome = .done := by
    rw [← Response.isSuccess_ofOutcome, hresponse]
    rfl
  rw [hresponse] at hfirst hsecond
  exact ⟨t₁, t₂, hfirst, hsecond, hagree hdone⟩

end Host

end Warden
