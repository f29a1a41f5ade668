/-
What a refresh does to a service, and what it does not.

# Contents

A refresh of one policy leaves everything else of the service as it is
(`SameBut`), and leaves all of it when there are no settings to reload
by (`refresh_of_load_eq_error`). How it ends depends on the source and
the files alone (`outcome_refresh`), and where it is done, so do the
answers of the policy (`AgreesOn`, `agreesOn_refresh`): whatever was
published before is either replaced or no longer asked.

The first loads of a new service are three such reloads in a row, so a
policy that was refreshed answers like one that was just set up
(`agreesOn_initialLoad`).
-/
import Warden.Proofs.Policy.Groups
import Warden.Proofs.Policy.Passwords
import Warden.Proofs.Policy.Whitelist
import Warden.Service

namespace Warden

namespace Service

variable (files : FileSystem) (config : Config) (s t : Service) (p : Policy)

-- ================================================== comparing two services

/-- Two services answer every question to a policy alike. -/
def AgreesOn : Policy → Service → Service → Prop
  | .groups, s, t =>
    (∀ user, s.groups.groupsOf user = t.groups.groupsOf user)
      ∧ ∀ user group, s.groups.hasGroup user group = t.groups.hasGroup user group
  | .whitelist, s, t =>
    ∀ address user, s.whitelist.check address user = t.whitelist.check address user
  | .passwords, s, t =>
    ∀ user password, s.passwords.check user password = t.passwords.check user password

/-- Two services differ at most in the switch and the published data of
one policy. -/
structure SameBut (p : Policy) (s t : Service) : Prop where
  source : t.source = s.source
  algorithm : t.passwords.algorithm = s.passwords.algorithm
  groups : p ≠ .groups → t.groups = s.groups
  whitelist : p ≠ .whitelist → t.whitelist = s.whitelist
  passwords : p ≠ .passwords → t.passwords = s.passwords

variable {s t p}

theorem AgreesOn.refl (p : Policy) (s : Service) : AgreesOn p s s := by
  cases p with
  | groups => exact ⟨fun _ => rfl, fun _ _ => rfl⟩
  | whitelist => exact fun _ _ => rfl
  | passwords => exact fun _ _ => rfl

theorem AgreesOn.symm (h : AgreesOn p s t) : AgreesOn p t s := by
  cases p with
  | groups => exact ⟨fun user => (h.1 user).symm, fun user group => (h.2 user group).symm⟩
  | whitelist => exact fun address user => (h address user).symm
  | passwords => exact fun user password => (h user password).symm

theorem AgreesOn.trans {u : Service} (h₁ : AgreesOn p s t) (h₂ : AgreesOn p t u) :
    AgreesOn p s u := by
  cases p with
  | groups =>
      exact ⟨fun user => (h₁.1 user).trans (h₂.1 user),
        fun user group => (h₁.2 user group).trans (h₂.2 user group)⟩
  | whitelist => exact fun address user => (h₁ address user).trans (h₂ address user)
  | passwords => exact fun user password => (h₁ user password).trans (h₂ user password)

/-- What is done to one policy is not seen through another. -/
theorem SameBut.agreesOn {q : Policy} (h : SameBut q s t) (hne : q ≠ p) : AgreesOn p t s := by
  cases p with
  | groups => simp [AgreesOn, h.groups hne]
  | whitelist => simp [AgreesOn, h.whitelist hne]
  | passwords => simp [AgreesOn, h.passwords hne]

-- ============================================================ one reload

/-- A reload is confined to its policy. -/
theorem sameBut_reload (s : Service) (p : Policy) :
    SameBut p s (s.reload files config p).value.2 := by
  cases p with
  | groups => exact ⟨rfl, rfl, fun h => absurd rfl h, fun _ => rfl, fun _ => rfl⟩
  | whitelist => exact ⟨rfl, rfl, fun _ => rfl, fun h => absurd rfl h, fun _ => rfl⟩
  | passwords =>
      exact ⟨rfl, s.passwords.algorithm_reload config.password files, fun _ => rfl, fun _ => rfl,
        fun h => absurd rfl h⟩

/-- How a reload ends depends on the settings and the files alone. -/
theorem result_reload (s t : Service) (p : Policy) :
    (s.reload files config p).value.1 = (t.reload files config p).value.1 := by
  cases p with
  | groups => exact (Groups.reload_eq config.groups files s.groups t.groups).1
  | whitelist => exact Whitelist.result_reload config.whitelist files s.whitelist t.whitelist
  | passwords => exact Passwords.result_reload config.password files s.passwords t.passwords

/-- So do the policy's answers, where the reload succeeds. -/
theorem agreesOn_reload (halgorithm : s.passwords.algorithm = t.passwords.algorithm)
    (hok : (s.reload files config p).value.1 = .ok ()) :
    AgreesOn p (s.reload files config p).value.2 (t.reload files config p).value.2 := by
  cases p with
  | groups =>
      have heq : (s.reload files config .groups).value.2.groups
          = (t.reload files config .groups).value.2.groups :=
        (Groups.reload_eq config.groups files s.groups t.groups).2 hok
      simp [AgreesOn, heq]
  | whitelist =>
      intro address user
      have hcheck := Whitelist.check_reload config.whitelist files s.whitelist t.whitelist hok
      exact congrFun (congrFun hcheck address) user
  | passwords =>
      intro user password
      have hcheck :=
        Passwords.check_reload config.password files s.passwords t.passwords halgorithm hok
      exact congrFun (congrFun hcheck user) password

-- =========================================================== one refresh

/-- Without settings, a refresh fails and changes nothing. -/
theorem refresh_of_load_eq_error {cause : ConfigError} (h : s.source.load files = .error cause)
    (p : Policy) : s.refresh files p = pure (.failed (.config cause), s) := by
  simp [refresh, h]

/-- With settings, it is a reload by them. -/
theorem value_refresh_of_load_eq_ok {config : Config} (h : s.source.load files = .ok config)
    (p : Policy) :
    (s.refresh files p).value
      = (outcomeOf (s.reload files config p).value.1, (s.reload files config p).value.2) := by
  simp [refresh, h]

/-- A reload that succeeds is done. -/
theorem outcomeOf_eq_done_iff (r : Except ReloadError Unit) :
    outcomeOf r = .done ↔ r = .ok () := by
  cases r <;> simp [outcomeOf]

/-- A refresh is confined to its policy. -/
theorem sameBut_refresh (s : Service) (p : Policy) :
    SameBut p s (s.refresh files p).value.2 := by
  cases hload : s.source.load files with
  | error cause =>
      rw [refresh_of_load_eq_error files hload]
      exact ⟨rfl, rfl, fun _ => rfl, fun _ => rfl, fun _ => rfl⟩
  | ok config =>
      rw [value_refresh_of_load_eq_ok files hload]
      exact sameBut_reload files config s p

/-- How a refresh ends depends on the source and the files alone. -/
theorem outcome_refresh (hsource : s.source = t.source) (p : Policy) :
    (s.refresh files p).value.1 = (t.refresh files p).value.1 := by
  cases hload : s.source.load files with
  | error cause =>
      rw [refresh_of_load_eq_error files hload,
        refresh_of_load_eq_error files (hsource ▸ hload)]
      rfl
  | ok config =>
      rw [value_refresh_of_load_eq_ok files hload,
        value_refresh_of_load_eq_ok files (hsource ▸ hload)]
      exact congrArg outcomeOf (result_reload files config s t p)

/-- A refresh that is done had settings, and reloaded by them. -/
theorem load_eq_ok_of_refresh_eq_done (hdone : (s.refresh files p).value.1 = .done) :
    ∃ config, s.source.load files = .ok config
      ∧ (s.reload files config p).value.1 = .ok ()
      ∧ (s.refresh files p).value.2 = (s.reload files config p).value.2 := by
  cases hload : s.source.load files with
  | error cause =>
      rw [refresh_of_load_eq_error files hload] at hdone
      cases hdone
  | ok config =>
      rw [value_refresh_of_load_eq_ok files hload] at hdone ⊢
      exact ⟨config, rfl, (outcomeOf_eq_done_iff _).mp hdone, rfl⟩

/-- Where a refresh is done, so do the policy's answers. -/
theorem agreesOn_refresh (hsource : s.source = t.source)
    (halgorithm : s.passwords.algorithm = t.passwords.algorithm)
    (hdone : (s.refresh files p).value.1 = .done) :
    AgreesOn p (s.refresh files p).value.2 (t.refresh files p).value.2 := by
  obtain ⟨config, hload, hok, hnext⟩ := load_eq_ok_of_refresh_eq_done files hdone
  rw [hnext, value_refresh_of_load_eq_ok files (hsource ▸ hload)]
  exact agreesOn_reload files config halgorithm hok

-- ========================================================= the first loads

/-- A service is made by loading its settings, finding their digest
algorithm, and loading every dataset. -/
theorem create_eq_ok_iff {source : ConfigSource} :
    (create files source).value = .ok s
      ↔ ∃ config algorithm, source.load files = .ok config
          ∧ Algorithm.ofName? config.password.digestAlgorithm = .ok algorithm
          ∧ s = (initialLoad files config (.new source algorithm)).value := by
  constructor
  · intro h
    unfold create at h
    split at h
    case h_1 => cases h
    case h_2 config hload =>
      split at h
      case h_1 => cases h
      case h_2 algorithm hname =>
        simp only [Observed.value_bind, Observed.value_pure, Except.ok.injEq] at h
        exact ⟨config, algorithm, hload, hname, h.symm⟩
  · rintro ⟨config, algorithm, hload, hname, rfl⟩
    simp [create, hload, hname]

/-- After the first loads of a service, a policy answers as after any
reload of it that succeeds by the same settings and files: the loads of
the other policies are not seen through it. -/
theorem agreesOn_initialLoad (halgorithm : s.passwords.algorithm = t.passwords.algorithm)
    (hok : (s.reload files config p).value.1 = .ok ()) :
    AgreesOn p (s.reload files config p).value.2 (initialLoad files config t).value := by
  let t₁ := (t.reload files config .groups).value.2
  let t₂ := (t₁.reload files config .whitelist).value.2
  let t₃ := (t₂.reload files config .passwords).value.2
  have h₁ : SameBut .groups t t₁ := sameBut_reload files config t .groups
  have h₂ : SameBut .whitelist t₁ t₂ := sameBut_reload files config t₁ .whitelist
  have h₃ : SameBut .passwords t₂ t₃ := sameBut_reload files config t₂ .passwords
  show AgreesOn p (s.reload files config p).value.2 t₃
  cases p with
  | groups =>
      refine AgreesOn.trans (agreesOn_reload files config (t := t) halgorithm hok) ?_
      exact ((h₃.agreesOn (by decide)).trans (h₂.agreesOn (by decide))).symm
  | whitelist =>
      have hs : s.passwords.algorithm = t₁.passwords.algorithm := halgorithm.trans h₁.algorithm.symm
      refine AgreesOn.trans (agreesOn_reload files config (t := t₁) hs hok) ?_
      exact (h₃.agreesOn (by decide)).symm
  | passwords =>
      have hs : s.passwords.algorithm = t₂.passwords.algorithm :=
        (halgorithm.trans h₁.algorithm.symm).trans h₂.algorithm.symm
      exact agreesOn_reload files config (t := t₂) hs hok

end Service

end Warden
