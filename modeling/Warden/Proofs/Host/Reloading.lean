/-
What a command reloads, and by which settings.

# Contents

`settings?` says of a command whether it reloads a given policy of the
service of a given number, and by which settings: those that its source
gives now if the service starts or is refreshed, those that came along if
it is reloaded directly. It is said from the registry and the sources
alone, without running anything.

`sameIn_perform` says that this is all: after any command the policy is
as after the reload by these settings, or as it was if there are none.
Laws on one policy over whole histories follow from this one lemma about
a step. A service that was not started yet counts as one that has loaded
nothing (`serviceAt`), so a start is a step like the others.
-/
import Warden.Proofs.Host.History
import Warden.Proofs.Service.Accounting

namespace Warden

namespace Service

variable {s t u : Service} {p q : Policy}

-- ========================================================= one policy alone

/-- Two services have the same switch and the same data in one policy. -/
def SameIn : Policy → Service → Service → Prop
  | .groups, s, t => s.groups = t.groups
  | .whitelist, s, t => s.whitelist = t.whitelist
  | .passwords, s, t => s.passwords = t.passwords

theorem SameIn.refl (p : Policy) (s : Service) : SameIn p s s := by
  cases p <;> rfl

theorem SameIn.trans (h₁ : SameIn p s t) (h₂ : SameIn p t u) : SameIn p s u := by
  cases p <;> exact Eq.trans h₁ h₂

/-- A reload of one policy leaves the others the same. -/
theorem SameBut.sameIn (h : SameBut q s t) (hne : q ≠ p) : SameIn p t s := by
  cases p with
  | groups => exact h.groups hne
  | whitelist => exact h.whitelist hne
  | passwords => exact h.passwords hne

/-- What is published of a dataset is seen in its policy. -/
theorem SameIn.holds {d : Dataset} {text : String}
    (hsame : SameIn d.policy s t) (hholds : t.Holds text d) : s.Holds text d := by
  cases d with
  | groups =>
      have hgroups : s.groups = t.groups := hsame
      simpa only [Holds, hgroups] using hholds
  | fixedWhitelist =>
      have hwhitelist : s.whitelist = t.whitelist := hsame
      simpa only [Holds, hwhitelist] using hholds
  | variableWhitelist =>
      have hwhitelist : s.whitelist = t.whitelist := hsame
      simpa only [Holds, hwhitelist] using hholds
  | passwords =>
      have hpasswords : s.passwords = t.passwords := hsame
      simpa only [Holds, hpasswords] using hholds

/-- A reload works on the one policy alone. -/
theorem SameIn.reload (h : SameIn p s t) (files : FileSystem) (config : Config) :
    SameIn p (s.reload files config p).value.2 (t.reload files config p).value.2 := by
  cases p with
  | groups =>
      have hgroups : s.groups = t.groups := h
      simp [SameIn, Service.reload, hgroups]
  | whitelist =>
      have hwhitelist : s.whitelist = t.whitelist := h
      simp [SameIn, Service.reload, hwhitelist]
  | passwords =>
      have hpasswords : s.passwords = t.passwords := h
      simp [SameIn, Service.reload, hpasswords]

/-- A service after a reload of one policy, if there are settings for it. -/
def settled (files : FileSystem) (p : Policy) (s : Service) : Option Config → Service
  | none => s
  | some config => (s.reload files config p).value.2

@[simp] theorem settled_none (files : FileSystem) (p : Policy) (s : Service) :
    s.settled files p none = s := rfl

/-- Services that are the same in a policy stay so when it is settled alike. -/
theorem SameIn.settled (h : SameIn p s t) (files : FileSystem) (config? : Option Config) :
    SameIn p (s.settled files p config?) (t.settled files p config?) := by
  cases config? with
  | none => exact h
  | some config => exact h.reload files config

/-- A refresh settles its policy by what the source gives, or not at all. -/
theorem refresh_eq_settled (files : FileSystem) (s : Service) (p : Policy) :
    (s.refresh files p).value.2 = s.settled files p (s.source.load files).toOption := by
  cases hload : s.source.load files with
  | error cause => rw [refresh_of_load_eq_error files hload]; rfl
  | ok config => rw [value_refresh_of_load_eq_ok files hload]; rfl

/-- The first loads leave the source of a service as it is. -/
theorem source_initialLoad (files : FileSystem) (config : Config) (s : Service) :
    (initialLoad files config s).value.source = s.source := by
  let s₁ := (s.reload files config .groups).value.2
  let s₂ := (s₁.reload files config .whitelist).value.2
  show (s₂.reload files config .passwords).value.2.source = s.source
  rw [(sameBut_reload files config s₂ .passwords).source,
    (sameBut_reload files config s₁ .whitelist).source,
    (sameBut_reload files config s .groups).source]

/-- After the first loads, each policy is as after its own. -/
theorem sameIn_initialLoad (files : FileSystem) (config : Config) (s : Service) (p : Policy) :
    SameIn p (initialLoad files config s).value (s.reload files config p).value.2 := by
  let s₁ := (s.reload files config .groups).value.2
  let s₂ := (s₁.reload files config .whitelist).value.2
  have h₁ : SameBut .groups s s₁ := sameBut_reload files config s .groups
  have h₂ : SameBut .whitelist s₁ s₂ := sameBut_reload files config s₁ .whitelist
  have h₃ : SameBut .passwords s₂ (s₂.reload files config .passwords).value.2 :=
    sameBut_reload files config s₂ .passwords
  show SameIn p (s₂.reload files config .passwords).value.2 (s.reload files config p).value.2
  cases p with
  | groups => exact (h₃.sameIn (by decide)).trans (h₂.sameIn (by decide))
  | whitelist =>
      exact (h₃.sameIn (by decide)).trans ((h₁.sameIn (by decide)).reload files config)
  | passwords =>
      exact ((h₂.sameIn (by decide)).trans (h₁.sameIn (by decide))).reload files config

end Service

namespace Host

open Service (SameIn SameBut)

variable (files : FileSystem) {h : Host} {number : Nat} {s t : Service} {p : Policy}

-- ====================================================== services by number

/-- The service of a number, or one that has loaded nothing. -/
def serviceAt (h : Host) (number : Nat) : Service :=
  (h.service? number).getD (.new (.fixed {}) .md5)

/-- The service at a number is the one that is there. -/
theorem serviceAt_of_service? (hservice : h.service? number = some s) :
    h.serviceAt number = s := by
  simp [serviceAt, hservice]

theorem service?_eq_some_serviceAt (hsome : (h.service? number).isSome = true) :
    h.service? number = some (h.serviceAt number) := by
  obtain ⟨s, hservice⟩ := Option.isSome_iff_exists.mp hsome
  rw [hservice, serviceAt_of_service? hservice]

/-- Putting a service in its place changes no other. -/
theorem service?_withService {n : Nat} (hservice : h.service? n = some s) (t : Service) :
    (h.withService n t).service? number = if n = number then some t else h.service? number := by
  have hservices : h.world.services[n]? = some s := hservice
  obtain ⟨hlt, -⟩ := List.getElem?_eq_some_iff.mp hservices
  show (h.world.services.set n t)[number]?
    = if n = number then some t else h.world.services[number]?
  simp [List.getElem?_set, hlt]

theorem serviceAt_withService {n : Nat} (hservice : h.service? n = some s) (t : Service) :
    (h.withService n t).serviceAt number = if n = number then t else h.serviceAt number := by
  unfold serviceAt
  rw [service?_withService hservice]
  split <;> rfl

-- ================================================================ settings

/-- Whether a handler is a service's own reload of a policy. -/
def isOwn (number : Nat) (p : Policy) : Handler → Bool
  | .own n q => n = number ∧ q = p
  | .foreign _ _ => false

/-- The settings that a refresh command of a policy finds for a service:
none if another handler stands under the identifier by now. -/
def refreshSettings? (h : Host) (number : Nat) (p : Policy) : Option Config :=
  if (h.handler? p.identifier).any (isOwn number p) then
    (h.service? number).bind fun s => (s.source.load files).toOption
  else none

/-- Hosts that are alike have the same services. -/
theorem Alike.serviceAt {g : Host} (halike : h.Alike g) (number : Nat) :
    g.serviceAt number = h.serviceAt number := by
  unfold Host.serviceAt
  rw [halike.service?]

/-- Hosts that are alike refresh by the same settings. -/
theorem Alike.refreshSettings? {g : Host} (halike : h.Alike g) (number : Nat) (p : Policy) :
    g.refreshSettings? files number p = h.refreshSettings? files number p := by
  unfold Host.refreshSettings?
  rw [halike.handler?, halike.service?]

/-- The settings that a command reloads a policy of a service by. -/
def settings? (h : Host) (number : Nat) (p : Policy) : Command → Option Config
  | .start source =>
    match (Service.create files source).value with
    | .ok _ => if number = h.services.length then (source.load files).toOption else none
    | .error _ => none
  | .dispatch identifier _ =>
    if identifier = p.identifier then h.refreshSettings? files number p else none
  | .reloadAll => h.refreshSettings? files number p
  | .reload n config q =>
    if n = number ∧ q = p then (h.service? number).map fun _ => config else none
  | .register .. | .unregister .. | .shutdown => none

/-- An own handler is recognised by its service and its policy. -/
theorem any_isOwn {handler? : Option Handler} :
    handler?.any (isOwn number p) = true ↔ handler? = some (.own number p) := by
  rcases handler? with _ | ⟨n, q⟩ | ⟨n, behaviour⟩ <;> simp [isOwn]

/-- Where a service serves a policy, a refresh is by what its source gives. -/
theorem Serves.refreshSettings? (hserves : h.Serves number s p) :
    h.refreshSettings? files number p = (s.source.load files).toOption := by
  simp [Host.refreshSettings?, any_isOwn.mpr hserves.handler, hserves.service]

/-- There are settings for a service only while it serves the policy. -/
theorem serves_of_refreshSettings? {config : Config}
    (hsome : h.refreshSettings? files number p = some config) : ∃ s, h.Serves number s p := by
  unfold Host.refreshSettings? at hsome
  split at hsome
  case isTrue hown =>
    obtain ⟨s, hservice, -⟩ := Option.bind_eq_some_iff.mp hsome
    exact ⟨s, hservice, any_isOwn.mp hown⟩
  case isFalse => cases hsome

/-- A service that settled in one policy, put in its place, as each policy
of each service sees it. -/
theorem sameIn_withService {n : Nat} {q : Policy} {config? : Option Config}
    (hservice : h.service? n = some s) (hframe : SameBut q s t)
    (hsettled : n = number → q = p → SameIn p t (s.settled files p config?))
    (hother : ¬ (n = number ∧ q = p) → config? = none) :
    SameIn p ((h.withService n t).serviceAt number)
      ((h.serviceAt number).settled files p config?) := by
  rw [serviceAt_withService hservice]
  by_cases hnumber : n = number
  case pos =>
    subst hnumber
    rw [if_pos rfl, serviceAt_of_service? hservice]
    by_cases hpolicy : q = p
    · exact hsettled rfl hpolicy
    · rw [hother fun h => hpolicy h.2]
      exact hframe.sameIn hpolicy
  case neg =>
    rw [if_neg hnumber, hother fun h => hnumber h.1]
    exact SameIn.refl p _

-- ===================================================== one refresh command

/-- One refresh command, as one policy of one service sees it. -/
theorem sameIn_dispatch (hplace : InPlace h.registry) (number : Nat) (p : Policy)
    (identifier : String) (args : List String) :
    SameIn p ((h.dispatch files identifier args).value.2.serviceAt number)
      ((h.serviceAt number).settled files p
        (h.settings? files number p (.dispatch identifier args))) := by
  rcases dispatch_cases_serves files hplace identifier args with
    ⟨n, s, q, rfl, hserves, hhost⟩ | ⟨hunserved, halike⟩
  · rw [hhost]
    refine sameIn_withService files hserves.service (Service.sameBut_refresh files s q) ?_ ?_
    · rintro rfl rfl
      rw [Service.refresh_eq_settled, settings?, if_pos rfl, hserves.refreshSettings?]
      exact SameIn.refl q _
    · intro hother
      simp only [settings?]
      split
      case isTrue heq =>
        obtain rfl : q = p := Policy.identifier_inj.mp heq
        have hnumber : n ≠ number := fun heq => hother ⟨heq, rfl⟩
        simp [refreshSettings?, hserves.handler, isOwn, hnumber]
      case isFalse => rfl
  · have hnone : h.settings? files number p (.dispatch identifier args) = none := by
      simp only [settings?]
      split
      case isTrue heq =>
        cases hsettings : h.refreshSettings? files number p with
        | none => rfl
        | some config =>
            obtain ⟨s, hserves⟩ := serves_of_refreshSettings? files hsettings
            exact absurd hserves (hunserved number s p heq)
      case isFalse => rfl
    rw [halike.serviceAt, hnone]
    exact SameIn.refl p _

/-- No dispatch changes what a later refresh is by, since sources and
handlers stay. -/
theorem refreshSettings?_dispatch (hplace : InPlace h.registry) (number : Nat) (p : Policy)
    (identifier : String) (args : List String) :
    (h.dispatch files identifier args).value.2.refreshSettings? files number p
      = h.refreshSettings? files number p := by
  rcases dispatch_cases_serves files hplace identifier args with
    ⟨n, s, q, rfl, hserves, hhost⟩ | ⟨-, halike⟩
  · have hsource : (s.refresh files q).value.2.source = s.source :=
      (Service.sameBut_refresh files s q).source
    have hhandler : (h.withService n (s.refresh files q).value.2).handler? p.identifier
        = h.handler? p.identifier := rfl
    rw [hhost]
    unfold refreshSettings?
    rw [hhandler, service?_withService hserves.service]
    by_cases hnumber : n = number
    · subst hnumber
      simp [hserves.service, hsource]
    · rw [if_neg hnumber]
  · exact halike.refreshSettings? files number p

/-- A row of refresh commands, each identifier once. -/
theorem sameIn_dispatchEach (number : Nat) (p : Policy) :
    ∀ (identifiers : List String) (h : Host), identifiers.Nodup → InPlace h.registry →
      SameIn p ((dispatchEach files identifiers h).value.2.serviceAt number)
        ((h.serviceAt number).settled files p
          (if p.identifier ∈ identifiers then h.refreshSettings? files number p else none)) := by
  intro identifiers
  induction identifiers with
  | nil => intro h _ _; exact SameIn.refl p _
  | cons identifier rest ih =>
      intro h hnodup hplace
      obtain ⟨hfirst, hrest⟩ := List.nodup_cons.mp hnodup
      have hstep := sameIn_dispatch files hplace number p identifier []
      have hlater := ih (h.dispatch files identifier []).value.2 hrest hplace
      rw [refreshSettings?_dispatch files hplace] at hlater
      -- The identifier comes once: it is this one, or among the rest.
      refine SameIn.trans hlater ((hstep.settled files _).trans ?_)
      simp only [settings?]
      by_cases heq : identifier = p.identifier
      · subst heq
        simp only [hfirst, if_false, Service.settled_none, List.mem_cons_self, if_true]
        exact SameIn.refl p _
      · have hmem : p.identifier ∈ identifier :: rest ↔ p.identifier ∈ rest := by
          simp [Ne.symm heq]
        simp only [heq, hmem, if_false, Service.settled_none]
        exact SameIn.refl p _

/-- What is not among the identifiers has no settings anyway. -/
theorem refreshSettings?_of_identifiers (h : Host) (number : Nat) (p : Policy) :
    (if p.identifier ∈ h.registry.identifiers then h.refreshSettings? files number p else none)
      = h.refreshSettings? files number p := by
  split
  case isTrue => rfl
  case isFalse habsent =>
    cases hsettings : h.refreshSettings? files number p with
    | none => rfl
    | some config =>
        obtain ⟨s, hserves⟩ := serves_of_refreshSettings? files hsettings
        exact absurd hserves.mem_identifiers habsent

-- ============================================================= any command

/-- A start adds a service, after all those that are there. -/
theorem serviceAt_start {source : ConfigSource} (hcreate : (Service.create files source).value = .ok s)
    (h : Host) (number : Nat) :
    (h.start files source).value.2.serviceAt number
      = if number = h.services.length then s else h.serviceAt number := by
  have hservices : (h.start files source).value.2.services = h.services ++ [s] :=
    (value_start hcreate h).2.1
  unfold serviceAt service?
  rw [hservices]
  by_cases hnumber : number = h.services.length
  · simp [hnumber]
  · rw [if_neg hnumber]
    rcases Nat.lt_or_ge number h.services.length with hlt | hge
    · rw [List.getElem?_append_left hlt]
    · have hbeyond : (h.services ++ [s]).length ≤ number := by
        rw [List.length_append, List.length_singleton]
        omega
      rw [List.getElem?_eq_none hge, List.getElem?_eq_none hbeyond]

/-- A start settles the policies of the service that it starts, and of no
other. -/
theorem sameIn_start (source : ConfigSource) (h : Host) (number : Nat) (p : Policy) :
    SameIn p ((h.start files source).value.2.serviceAt number)
      ((h.serviceAt number).settled files p (h.settings? files number p (.start source))) := by
  cases hcreate : (Service.create files source).value with
  | error e =>
      simp only [settings?, hcreate, start, Observed.value_bind, Observed.value_pure,
        Service.settled_none]
      exact SameIn.refl p _
  | ok s =>
      obtain ⟨config, algorithm, hload, -, rfl⟩ := (Service.create_eq_ok_iff files).mp hcreate
      rw [serviceAt_start files hcreate]
      simp only [settings?, hcreate, hload, Except.toOption]
      by_cases hnumber : number = h.services.length
      case pos =>
        -- Only the source tells it from the service that counts until then.
        have hblank : h.serviceAt number = .new (.fixed {}) .md5 := by
          simp [serviceAt, service?, hnumber]
        have hnew : SameIn p (Service.new source algorithm) (.new (.fixed {}) .md5) := by
          cases p <;> rfl
        rw [if_pos hnumber, if_pos hnumber, hblank]
        exact (Service.sameIn_initialLoad files config _ p).trans (hnew.reload files config)
      case neg =>
        rw [if_neg hnumber, if_neg hnumber]
        exact SameIn.refl p _

/-- A reload settles one policy of one service. -/
theorem sameIn_reload (h : Host) (number : Nat) (p : Policy) (n : Nat) (config : Config)
    (q : Policy) :
    SameIn p ((h.perform files (.reload n config q)).value.serviceAt number)
      ((h.serviceAt number).settled files p (h.settings? files number p (.reload n config q))) := by
  cases hservice : h.service? n with
  | none =>
      have hhost : (h.perform files (.reload n config q)).value = h := by simp [perform, hservice]
      have hnone : h.settings? files number p (.reload n config q) = none := by
        simp only [settings?]
        split
        case isTrue heq => rw [← heq.1, hservice]; rfl
        case isFalse => rfl
      rw [hhost, hnone]
      exact SameIn.refl p _
  | some s =>
      have hhost : (h.perform files (.reload n config q)).value
          = h.withService n (s.reload files config q).value.2 := by simp [perform, hservice]
      rw [hhost]
      refine sameIn_withService files hservice (Service.sameBut_reload files config s q) ?_ ?_
      · rintro rfl rfl
        simp only [settings?, hservice, and_self, if_true, Option.map_some]
        exact SameIn.refl q _
      · intro hother
        rw [settings?, if_neg hother]

/-- A command reloads a policy of a service by the settings that
`settings?` says, or leaves it as it is. -/
theorem sameIn_perform (hsound : Sound h) (number : Nat) (p : Policy) (c : Command) :
    SameIn p ((h.perform files c).value.serviceAt number)
      ((h.serviceAt number).settled files p (h.settings? files number p c)) := by
  cases c with
  | start source => exact sameIn_start files source h number p
  | register identifier n behaviour => exact SameIn.refl p _
  | unregister identifier => exact SameIn.refl p _
  | dispatch identifier args => exact sameIn_dispatch files hsound.inPlace number p identifier args
  | reloadAll =>
      have hrow := sameIn_dispatchEach files number p h.registry.identifiers h
        Std.TreeMap.nodup_keys hsound.inPlace
      rw [refreshSettings?_of_identifiers] at hrow
      exact hrow
  | reload n config q => exact sameIn_reload files h number p n config q
  | shutdown => exact SameIn.refl p _

end Host

end Warden
