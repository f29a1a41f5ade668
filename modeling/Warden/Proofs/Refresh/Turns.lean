/-
Runs take turns at gates, not at identifiers.

# Contents

A dispatch is four steps: it looks up the registration, acquires its
gate, starts the handler, and finishes and releases the gate; another
party may do anything in between. `Traffic` is a registry with all the
dispatches that are under way, and `step` is one step of one party. Left
alone, the four steps are what the registry calls a dispatch
(`steps_alone`, `steps_unknown`).

A gate belongs to one identifier, and whoever is past it is the one that
holds it; every step keeps that (`sound_step`). So of several runs at one
gate only one is under way, and a dispatch waits for none but of its own
identifier, and for one that can go on (`exists_holder_of_blocked`).

# Removal

The gate of an identifier stays when its handler is replaced, but not
when it is removed (`gate_step`). A run that began before the removal and
one that was looked up after the next registration have different gates,
and nothing keeps them apart (`overlap_after_removal`): the runs of an
identifier take turns as long as it is not removed.
-/
import Mathlib.Logic.Function.Basic
import Warden.Proofs.Run
import Warden.Refresh.Registry

namespace Warden

namespace Registry

variable {H σ P : Type}

-- ======================================================= gates in the map

/-- A registration takes over the gate that its identifier has, or gets a
new one. -/
theorem find?_insert (r : Registry H) (identifier other : String) (handler : H) :
    (r.insert identifier handler).find? other =
      if identifier = other then
        some ⟨handler, ((r.find? identifier).map (·.gate)).getD r.gates⟩
      else r.find? other := by
  unfold insert
  cases hfind : r.find? identifier <;> by_cases h : identifier = other <;>
    simp [find?, Std.TreeMap.getElem?_insert, h]

/-- Only an identifier that is new takes a new gate. -/
theorem gates_insert (r : Registry H) (identifier : String) (handler : H) :
    (r.insert identifier handler).gates
      = if (r.find? identifier).isSome then r.gates else r.gates + 1 := by
  unfold insert
  cases hfind : r.find? identifier <;> simp

-- ============================================================ dispatches

/-- How far a dispatch has come. -/
inductive Stage where
  /-- It has its registration, and waits at the gate. -/
  | waiting
  | entered
  /-- The handler was started and is not finished. -/
  | running
deriving DecidableEq

/-- A dispatch that is under way. -/
structure Flight (H : Type) where
  identifier : String
  args : List String
  /-- What stood under the identifier when it was looked up. -/
  registration : Registration H
  stage : Stage

/-- A registry, the world that its handlers work on, and the parties that
dispatch: what each is doing, and how its last dispatch was answered. -/
structure Traffic (P H σ : Type) where
  registry : Registry H
  world : σ
  flight : P → Option (Flight H)
  /-- Who is past a gate. -/
  holder : Nat → Option P
  answer : P → Option Response

/-- What a party does next. -/
inductive Action (P H : Type) where
  | register (identifier : String) (handler : H)
  | unregister (identifier : String)
  | lookUp (party : P) (identifier : String) (args : List String)
  | acquire (party : P)
  | start (party : P)
  | finish (party : P)

/-- A party begins a dispatch. -/
def Action.LooksUp (a : P) : Action P H → Prop
  | .lookUp b _ _ => b = a
  | _ => False

namespace Traffic

/-- An empty registry, and nobody dispatches. -/
def new (world : σ) : Traffic P H σ := ⟨.new, world, fun _ => none, fun _ => none, fun _ => none⟩

/-- A party runs the handler of an identifier. -/
def Runs (s : Traffic P H σ) (a : P) (identifier : String) : Prop :=
  ∃ f, s.flight a = some f ∧ f.identifier = identifier ∧ f.stage = .running

-- ============================================================ the invariant

variable {s : Traffic P H σ} {a b : P} {f : Flight H}

/-- Every gate there ever was belongs to one identifier, in the registry and
in the dispatches that captured it, and who is past a gate holds it. -/
structure Sound (s : Traffic P H σ) : Prop where
  owned : ∃ owner : Nat → String,
    (∀ identifier registration, s.registry.find? identifier = some registration →
        registration.gate < s.registry.gates ∧ owner registration.gate = identifier)
      ∧ ∀ a f, s.flight a = some f →
        f.registration.gate < s.registry.gates ∧ owner f.registration.gate = f.identifier
  held : ∀ gate a, s.holder gate = some a
    ↔ ∃ f, s.flight a = some f ∧ f.registration.gate = gate ∧ f.stage ≠ .waiting

/-- Where nothing is registered and nobody is under way, all is sound. -/
theorem sound_new (world : σ) : (new world : Traffic P H σ).Sound where
  owned := by
    refine ⟨fun _ => "", fun identifier registration h => ?_, nofun⟩
    simp [new] at h
  held := by simp [new]

/-- Registering keeps it so, since a new gate is held by nobody. -/
theorem sound_register (hs : s.Sound) (identifier : String) (handler : H) :
    ({ s with registry := s.registry.insert identifier handler } : Traffic P H σ).Sound where
  held := hs.held
  owned := by
    obtain ⟨owner, hregistered, hflights⟩ := hs.owned
    cases hfind : s.registry.find? identifier with
    | some old =>
        have hgates : (s.registry.insert identifier handler).gates = s.registry.gates := by
          simp [gates_insert, hfind]
        refine ⟨owner, fun other registration h => ?_, hgates.symm ▸ hflights⟩
        rw [hgates]
        rw [find?_insert] at h
        split at h
        case isFalse => exact hregistered other registration h
        case isTrue heq =>
          injection h with h
          subst heq h
          simpa [hfind] using hregistered identifier old hfind
    | none =>
        -- The new gate is nobody's so far.
        have hgates : (s.registry.insert identifier handler).gates = s.registry.gates + 1 := by
          simp [gates_insert, hfind]
        have hkept (gate : Nat) (hgate : gate < s.registry.gates) :
            Function.update owner s.registry.gates identifier gate = owner gate :=
          Function.update_of_ne (Nat.ne_of_lt hgate) _ _
        refine ⟨Function.update owner s.registry.gates identifier, fun other registration h => ?_,
          fun a f hflight => ?_⟩
        · rw [hgates]
          rw [find?_insert] at h
          split at h
          case isFalse =>
            obtain ⟨hlt, howner⟩ := hregistered other registration h
            exact ⟨Nat.lt_succ_of_lt hlt, (hkept _ hlt).trans howner⟩
          case isTrue heq =>
            injection h with h
            subst heq h
            simp [hfind]
        · rw [hgates]
          obtain ⟨hlt, howner⟩ := hflights a f hflight
          exact ⟨Nat.lt_succ_of_lt hlt, (hkept _ hlt).trans howner⟩

/-- Unregistering keeps it so, since gates stay with those that are under
way. -/
theorem sound_unregister (hs : s.Sound) (identifier : String) :
    ({ s with registry := (s.registry.unregister identifier).2 } : Traffic P H σ).Sound where
  held := hs.held
  owned := by
    obtain ⟨owner, hregistered, hflights⟩ := hs.owned
    refine ⟨owner, fun other registration h => ?_, hflights⟩
    rw [find?_unregister] at h
    split at h
    · cases h
    · exact hregistered other registration h

/-- One run at a gate at a time. -/
theorem Sound.eq_of_gate (hs : s.Sound) {g : Flight H} (hf : s.flight a = some f)
    (hg : s.flight b = some g) (hgate : f.registration.gate = g.registration.gate)
    (hfstage : f.stage ≠ .waiting) (hgstage : g.stage ≠ .waiting) : a = b := by
  have ha := (hs.held _ _).mpr ⟨f, hf, hgate, hfstage⟩
  have hb := (hs.held _ _).mpr ⟨g, hg, rfl, hgstage⟩
  rw [ha] at hb
  injection hb

/-- One gate, one identifier. -/
theorem Sound.identifier_eq (hs : s.Sound) {g : Flight H} (hf : s.flight a = some f)
    (hg : s.flight b = some g) (hgate : f.registration.gate = g.registration.gate) :
    f.identifier = g.identifier := by
  obtain ⟨_, -, hflights⟩ := hs.owned
  rw [← (hflights a f hf).2, ← (hflights b g hg).2, hgate]

-- =============================================================== one step

variable [DecidableEq P] (run : H → List String → σ → Observed (Outcome × σ))

open Function (update)

/-- A party moves on to a stage. -/
def advance (s : Traffic P H σ) (a : P) (f : Flight H) (stage : Stage) : Traffic P H σ :=
  { s with flight := update s.flight a (some { f with stage }) }

/-- One step, if it can be taken. A dispatch of nothing registered is over
at once. -/
def step (s : Traffic P H σ) : Action P H → Option (Traffic P H σ)
  | .register identifier handler =>
    some { s with registry := (s.registry.register identifier handler).value }
  | .unregister identifier => some { s with registry := (s.registry.unregister identifier).2 }
  | .lookUp a identifier args =>
    match s.flight a, s.registry.find? identifier with
    | some _, _ => none
    | none, none =>
      some { s with answer := update s.answer a (some (.unknownIdentifier identifier)) }
    | none, some registration =>
      some { s with flight := update s.flight a (some ⟨identifier, args, registration, .waiting⟩) }
  | .acquire a =>
    match s.flight a with
    | none => none
    | some f =>
      if f.stage = .waiting ∧ s.holder f.registration.gate = none then
        some { s.advance a f .entered with holder := update s.holder f.registration.gate (some a) }
      else none
  | .start a =>
    match s.flight a with
    | none => none
    | some f => if f.stage = .entered then some (s.advance a f .running) else none
  | .finish a =>
    match s.flight a with
    | none => none
    | some f =>
      if f.stage = .running then
        let (outcome, world) := (run f.registration.handler f.args s.world).value
        some { s with
          world
          flight := update s.flight a none
          holder := update s.holder f.registration.gate none
          answer := update s.answer a (some (.ofOutcome outcome)) }
      else none

/-- Steps one after the other. -/
def steps (s : Traffic P H σ) : List (Action P H) → Option (Traffic P H σ)
  | [] => some s
  | c :: rest => (s.step run c).bind fun s => s.steps rest

variable {run} {t : Traffic P H σ}

theorem steps_eq_foldlM (l : List (Action P H)) :
    s.steps run l = l.foldlM (fun s c => s.step run c) s := by
  induction l generalizing s with
  | nil => rfl
  | cons c rest ih => exact congrArg (Option.bind _) (funext fun _ => ih)

/-- Steps after steps pass through a state in between. -/
theorem steps_append_eq_some {l m : List (Action P H)} (h : s.steps run (l ++ m) = some t) :
    ∃ middle, s.steps run l = some middle ∧ middle.steps run m = some t := by
  simp only [steps_eq_foldlM] at h ⊢
  exact foldlM_append_eq_some h

theorem steps_cons_eq_some {c : Action P H} {l : List (Action P H)}
    (h : s.steps run (c :: l) = some t) :
    ∃ middle, s.step run c = some middle ∧ middle.steps run l = some t :=
  Option.bind_eq_some_iff.mp h

/-- What every step of a row preserves. -/
theorem steps_induction {Q : Traffic P H σ → Prop} {l : List (Action P H)}
    (h : s.steps run l = some t) (hs : Q s)
    (hstep : ∀ c ∈ l, ∀ {u v : Traffic P H σ}, Q u → u.step run c = some v → Q v) : Q t := by
  rw [steps_eq_foldlM] at h
  exact foldlM_induction h hs hstep

-- ================================================== what each step can do

theorem lookUp_eq_some {identifier : String} {args : List String}
    (h : s.step run (.lookUp a identifier args) = some t) :
    s.flight a = none
      ∧ ((s.registry.find? identifier = none
          ∧ t = { s with answer := update s.answer a (some (.unknownIdentifier identifier)) })
        ∨ ∃ registration, s.registry.find? identifier = some registration
          ∧ t = { s with
              flight := update s.flight a (some ⟨identifier, args, registration, .waiting⟩) }) := by
  simp only [step] at h
  split at h
  case h_1 => cases h
  case h_2 hflight hfind =>
    injection h with h
    exact ⟨hflight, .inl ⟨hfind, h.symm⟩⟩
  case h_3 registration hflight hfind =>
    injection h with h
    exact ⟨hflight, .inr ⟨registration, hfind, h.symm⟩⟩

/-- Only a dispatch that waits takes a gate, and only one that is free. -/
theorem acquire_eq_some (h : s.step run (.acquire a) = some t) :
    ∃ f, s.flight a = some f ∧ f.stage = .waiting ∧ s.holder f.registration.gate = none
      ∧ t = { s.advance a f .entered with
          holder := update s.holder f.registration.gate (some a) } := by
  simp only [step] at h
  split at h
  case h_1 => cases h
  case h_2 f hflight =>
    split at h
    case isFalse => cases h
    case isTrue hfree =>
      injection h with h
      exact ⟨f, hflight, hfree.1, hfree.2, h.symm⟩

/-- Only a dispatch past its gate starts a handler. -/
theorem start_eq_some (h : s.step run (.start a) = some t) :
    ∃ f, s.flight a = some f ∧ f.stage = .entered ∧ t = s.advance a f .running := by
  simp only [step] at h
  split at h
  case h_1 => cases h
  case h_2 f hflight =>
    split at h
    case isFalse => cases h
    case isTrue hentered =>
      injection h with h
      exact ⟨f, hflight, hentered, h.symm⟩

/-- Only a dispatch whose handler runs finishes: the world goes on, the gate
is free, and the answer stands. -/
theorem finish_eq_some (h : s.step run (.finish a) = some t) :
    ∃ f, s.flight a = some f ∧ f.stage = .running
      ∧ t = { s with
          world := (run f.registration.handler f.args s.world).value.2
          flight := update s.flight a none
          holder := update s.holder f.registration.gate none
          answer := update s.answer a
            (some (.ofOutcome (run f.registration.handler f.args s.world).value.1)) } := by
  simp only [step] at h
  split at h
  case h_1 => cases h
  case h_2 f hflight =>
    split at h
    case isFalse => cases h
    case isTrue hrunning =>
      injection h with h
      exact ⟨f, hflight, hrunning, h.symm⟩

-- ================================================== what every step keeps

/-- A change to one party leaves the others under way. -/
theorem flight_of_update {x : Option (Flight H)} {g : Flight H}
    (h : update s.flight a x b = some g) : (b = a ∧ x = some g) ∨ s.flight b = some g := by
  by_cases hb : b = a
  · subst hb
    exact .inl ⟨rfl, by simpa only [Function.update_self] using h⟩
  · exact .inr (by simpa only [Function.update_of_ne hb] using h)

/-- A dispatch that moves on keeps its gate. -/
theorem owned_advance (hs : s.Sound) (hflight : s.flight a = some f) (stage : Stage) :
    ∃ owner : Nat → String,
      (∀ identifier registration, s.registry.find? identifier = some registration →
          registration.gate < s.registry.gates ∧ owner registration.gate = identifier)
        ∧ ∀ b g, (s.advance a f stage).flight b = some g →
          g.registration.gate < s.registry.gates ∧ owner g.registration.gate = g.identifier := by
  obtain ⟨owner, hregistered, hflights⟩ := hs.owned
  refine ⟨owner, hregistered, fun b g hg => ?_⟩
  rcases flight_of_update hg with ⟨rfl, h⟩ | hg
  · injection h with h
    exact h ▸ hflights b f hflight
  · exact hflights b g hg

/-- What every step keeps. -/
theorem sound_step (hs : s.Sound) {c : Action P H} (h : s.step run c = some t) : t.Sound := by
  cases c with
  | register identifier handler =>
      injection h with h
      exact h ▸ sound_register hs identifier handler
  | unregister identifier =>
      injection h with h
      exact h ▸ sound_unregister hs identifier
  | lookUp a identifier args =>
      obtain ⟨hidle, ⟨-, rfl⟩ | ⟨registration, hfind, rfl⟩⟩ := lookUp_eq_some h
      case inl => exact ⟨hs.owned, hs.held⟩
      case inr =>
        obtain ⟨owner, hregistered, hflights⟩ := hs.owned
        refine ⟨⟨owner, hregistered, fun b g hg => ?_⟩, fun gate b => ?_⟩
        · rcases flight_of_update hg with ⟨-, h⟩ | hg
          · injection h with h
            exact h ▸ hregistered identifier registration hfind
          · exact hflights b g hg
        · rw [hs.held]
          by_cases hb : b = a
          · subst hb
            simp [hidle]
          · simp only [Function.update_of_ne hb]
  | acquire a =>
      obtain ⟨f, hflight, hwaiting, hfree, rfl⟩ := acquire_eq_some h
      refine ⟨owned_advance hs hflight .entered, fun gate b => ?_⟩
      by_cases hgate : gate = f.registration.gate
      case pos =>
        subst hgate
        have hothers : ¬ ∃ g, s.flight b = some g ∧ g.registration.gate = f.registration.gate
            ∧ g.stage ≠ .waiting := by
          rw [← hs.held, hfree]
          nofun
        by_cases hb : b = a
        · subst hb
          simp [advance]
        · simp only [advance, Function.update_self, Function.update_of_ne hb, hothers,
            Option.some.injEq, Ne.symm hb]
      case neg =>
        simp only [Function.update_of_ne hgate]
        rw [hs.held]
        by_cases hb : b = a
        · subst hb
          simp [advance, hflight, Ne.symm hgate]
        · simp only [advance, Function.update_of_ne hb]
  | start a =>
      obtain ⟨f, hflight, hentered, rfl⟩ := start_eq_some h
      refine ⟨owned_advance hs hflight .running, fun gate b => ?_⟩
      refine (hs.held gate b).trans ?_
      by_cases hb : b = a
      · subst hb
        simp [advance, hflight, hentered]
      · simp only [advance, Function.update_of_ne hb]
  | finish a =>
      obtain ⟨f, hflight, hrunning, rfl⟩ := finish_eq_some h
      obtain ⟨owner, hregistered, hflights⟩ := hs.owned
      refine ⟨⟨owner, hregistered, fun b g hg => ?_⟩, fun gate b => ?_⟩
      · rcases flight_of_update hg with ⟨-, h⟩ | hg
        · cases h
        · exact hflights b g hg
      · by_cases hgate : gate = f.registration.gate
        case pos =>
          -- It was this party's gate, and nobody else is past it.
          subst hgate
          simp only [Function.update_self]
          refine iff_of_false nofun ?_
          rintro ⟨g, hg, hgate, hstage⟩
          by_cases hb : b = a
          · subst hb
            simp at hg
          · simp only [Function.update_of_ne hb] at hg
            exact hb (hs.eq_of_gate hg hflight hgate hstage (by simp [hrunning]))
        case neg =>
          simp only [Function.update_of_ne hgate]
          rw [hs.held]
          by_cases hb : b = a
          · subst hb
            simp [hflight, Ne.symm hgate]
          · simp only [Function.update_of_ne hb]

/-- Whatever is done, it stays sound. -/
theorem sound_steps (hs : s.Sound) {l : List (Action P H)} (h : s.steps run l = some t) :
    t.Sound :=
  steps_induction h hs fun _ _ {_ _} hs h => sound_step hs h

-- ================================================================= waiting

/-- Who cannot pass its gate yet waits for a run of its own identifier, which
can go on. -/
theorem exists_holder_of_blocked (hs : s.Sound) (hflight : s.flight a = some f)
    (hwaiting : f.stage = .waiting) (hblocked : s.step run (.acquire a) = none) :
    ∃ b g, s.flight b = some g ∧ g.identifier = f.identifier
      ∧ ((s.step run (.start b)).isSome = true ∨ (s.step run (.finish b)).isSome = true) := by
  cases hholder : s.holder f.registration.gate with
  | none => simp [step, hflight, hwaiting, hholder] at hblocked
  | some b =>
      obtain ⟨g, hg, hgate, hstage⟩ := (hs.held _ _).mp hholder
      refine ⟨b, g, hg, hs.identifier_eq hg hflight hgate, ?_⟩
      cases hnow : g.stage with
      | waiting => exact absurd hnow hstage
      | entered => exact .inl (by simp [step, hg, hnow])
      | running => exact .inr (by simp [step, hg, hnow])

/-- Left alone, with its gate free, a dispatch is what the registry does. -/
theorem steps_alone {identifier : String} {registration : Registration H}
    (hidle : s.flight a = none) (hfind : s.registry.find? identifier = some registration)
    (hfree : s.holder registration.gate = none) (args : List String) :
    let result := (s.registry.dispatch run identifier args s.world).value
    s.steps run [.lookUp a identifier args, .acquire a, .start a, .finish a]
      = some { s with world := result.2, answer := update s.answer a (some result.1) } := by
  intro result
  have hresult : result = (.ofOutcome (run registration.handler args s.world).value.1,
      (run registration.handler args s.world).value.2) := dispatch_of_find?_eq_some hfind run args _
  simp [steps, step, advance, hidle, hfind, hfree, hresult]

/-- Left alone, a dispatch of what nobody registered is answered at once. -/
theorem steps_unknown {identifier : String} (hidle : s.flight a = none)
    (hfind : s.registry.find? identifier = none) (args : List String) :
    let result := (s.registry.dispatch run identifier args s.world).value
    s.steps run [.lookUp a identifier args]
      = some { s with world := result.2, answer := update s.answer a (some result.1) } := by
  intro result
  have hresult : result = (.unknownIdentifier identifier, s.world) :=
    dispatch_of_find?_eq_none hfind run args _
  simp [steps, step, hidle, hfind, hresult]

-- ================================================================ exclusion

/-- As long as an identifier is not removed, its gate stays. -/
theorem gate_step {c : Action P H} {identifier : String} {r : Registration H}
    (hc : c ≠ .unregister identifier) (hfind : s.registry.find? identifier = some r)
    (h : s.step run c = some t) :
    ∃ r', t.registry.find? identifier = some r' ∧ r'.gate = r.gate := by
  cases c with
  | register other handler =>
      injection h with h
      subst h
      show ∃ r', (s.registry.insert other handler).find? identifier = some r' ∧ r'.gate = r.gate
      by_cases heq : other = identifier
      · subst heq
        exact ⟨_, by rw [find?_insert, if_pos rfl], by simp [hfind]⟩
      · exact ⟨r, by rw [find?_insert, if_neg heq, hfind], rfl⟩
  | unregister other =>
      injection h with h
      subst h
      have hne : other ≠ identifier := fun heq => hc (by rw [heq])
      exact ⟨r, by rw [find?_unregister, if_neg hne, hfind], rfl⟩
  | lookUp a other args =>
      obtain ⟨-, ⟨-, rfl⟩ | ⟨_, -, rfl⟩⟩ := lookUp_eq_some h
      · exact ⟨r, hfind, rfl⟩
      · exact ⟨r, hfind, rfl⟩
  | acquire a =>
      obtain ⟨_, -, -, -, rfl⟩ := acquire_eq_some h
      exact ⟨r, hfind, rfl⟩
  | start a =>
      obtain ⟨_, -, -, rfl⟩ := start_eq_some h
      exact ⟨r, hfind, rfl⟩
  | finish a =>
      obtain ⟨_, -, -, rfl⟩ := finish_eq_some h
      exact ⟨r, hfind, rfl⟩

/-- An identifier that is not unregistered keeps its gate. -/
theorem gate_steps {l : List (Action P H)} {identifier : String} {r : Registration H}
    (hl : .unregister identifier ∉ l) (hfind : s.registry.find? identifier = some r)
    (h : s.steps run l = some t) :
    ∃ r', t.registry.find? identifier = some r' ∧ r'.gate = r.gate := by
  refine steps_induction (Q := fun u => ∃ r', u.registry.find? identifier = some r'
    ∧ r'.gate = r.gate) h ⟨r, hfind, rfl⟩ ?_
  rintro c hc u v ⟨r', hfind', hgate⟩ hstep
  have hne : c ≠ .unregister identifier := fun heq => hl (heq ▸ hc)
  obtain ⟨r'', hfind'', hgate'⟩ := gate_step hne hfind' hstep
  exact ⟨r'', hfind'', hgate'.trans hgate⟩

/-- A dispatch that a party did not begin just now is one it had before. -/
theorem flight_step {c : Action P H} (hc : ¬ c.LooksUp a) (h : s.step run c = some t)
    {g : Flight H} (hg : t.flight a = some g) :
    ∃ f, s.flight a = some f ∧ g.identifier = f.identifier ∧ g.registration = f.registration := by
  have hadvance (b : P) (f : Flight H) (stage : Stage) (hflight : s.flight b = some f)
      (hg : (s.advance b f stage).flight a = some g) :
      ∃ f, s.flight a = some f ∧ g.identifier = f.identifier
        ∧ g.registration = f.registration := by
    rcases flight_of_update hg with ⟨rfl, hmoved⟩ | hg
    · injection hmoved with hmoved
      exact ⟨f, hflight, by rw [← hmoved], by rw [← hmoved]⟩
    · exact ⟨g, hg, rfl, rfl⟩
  cases c with
  | register identifier handler =>
      injection h with h
      subst h
      exact ⟨g, hg, rfl, rfl⟩
  | unregister identifier =>
      injection h with h
      subst h
      exact ⟨g, hg, rfl, rfl⟩
  | lookUp b identifier args =>
      obtain ⟨-, ⟨-, rfl⟩ | ⟨_, -, rfl⟩⟩ := lookUp_eq_some h
      · exact ⟨g, hg, rfl, rfl⟩
      · obtain ⟨rfl, -⟩ | hg := flight_of_update hg
        · exact absurd rfl hc
        · exact ⟨g, hg, rfl, rfl⟩
  | acquire b =>
      obtain ⟨f, hflight, -, -, rfl⟩ := acquire_eq_some h
      exact hadvance b f .entered hflight hg
  | start b =>
      obtain ⟨f, hflight, -, rfl⟩ := start_eq_some h
      exact hadvance b f .running hflight hg
  | finish b =>
      obtain ⟨_, -, -, rfl⟩ := finish_eq_some h
      obtain ⟨-, hdone⟩ | hg := flight_of_update hg
      · cases hdone
      · exact ⟨g, hg, rfl, rfl⟩

/-- What a party dispatches it had looked up last, or had begun before. -/
theorem lookUp_of_flight {l : List (Action P H)} (h : s.steps run l = some t)
    (hf : t.flight a = some f) :
    (∃ past args later, l = past ++ .lookUp a f.identifier args :: later
        ∧ ∀ c ∈ later, ¬ c.LooksUp a)
      ∨ (∀ c ∈ l, ¬ c.LooksUp a)
        ∧ ∃ g, s.flight a = some g ∧ f.identifier = g.identifier
          ∧ f.registration = g.registration := by
  induction l generalizing s with
  | nil =>
      injection h with h
      exact .inr ⟨nofun, f, h ▸ hf, rfl, rfl⟩
  | cons c rest ih =>
      obtain ⟨middle, hfirst, hrest⟩ := steps_cons_eq_some h
      rcases ih hrest with ⟨past, args, later, rfl, hlater⟩ | ⟨hnone, g, hg, hname, hgate⟩
      · exact .inl ⟨c :: past, args, later, rfl, hlater⟩
      by_cases hc : c.LooksUp a
      case neg =>
        obtain ⟨g', hg', hname', hgate'⟩ := flight_step hc hfirst hg
        refine .inr ⟨fun c' hc' => ?_, g', hg', hname.trans hname', hgate.trans hgate'⟩
        exact (List.mem_cons.mp hc').elim (fun heq => heq ▸ hc) (hnone c')
      case pos =>
        cases c with
        | lookUp b identifier args =>
            obtain rfl : b = a := hc
            obtain ⟨hidle, ⟨-, rfl⟩ | ⟨registration, -, rfl⟩⟩ := lookUp_eq_some hfirst
            · rw [hidle] at hg
              cases hg
            · simp only [Function.update_self, Option.some.injEq] at hg
              refine .inl ⟨[], args, rest, ?_, hnone⟩
              rw [hname, ← hg]
              rfl
        | register _ _ | unregister _ | acquire _ | start _ | finish _ => cases hc

/-- A party that runs a handler it looked up got it from the registry. -/
theorem find?_of_lookUp {identifier : String} {args : List String} {l : List (Action P H)}
    (hlookUp : s.step run (.lookUp a identifier args) = some t) {u : Traffic P H σ}
    (hl : ∀ c ∈ l, ¬ c.LooksUp a) (h : t.steps run l = some u) (hf : u.flight a = some f) :
    s.registry.find? identifier = some f.registration ∧ t.registry = s.registry := by
  obtain ⟨past, args, later, rfl, -⟩ | ⟨-, g, hg, -, hregistration⟩ := lookUp_of_flight h hf
  · exact absurd rfl (hl _ (List.mem_append_right past List.mem_cons_self))
  obtain ⟨hidle, ⟨-, rfl⟩ | ⟨registration, hfind, rfl⟩⟩ := lookUp_eq_some hlookUp
  · rw [hidle] at hg
    cases hg
  · simp only [Function.update_self, Option.some.injEq] at hg
    rw [hregistration, ← hg]
    exact ⟨hfind, rfl⟩

/-- Two runs of one identifier overlap only if it was removed between their
look-ups. -/
theorem unregister_mem_of_overlap (hs : s.Sound) {identifier : String} {xs ys : List String}
    {past between later : List (Action P H)}
    (h : s.steps run (past ++ .lookUp a identifier xs
      :: (between ++ .lookUp b identifier ys :: later)) = some t)
    (hab : a ≠ b) (hbetween : ∀ c ∈ between, ¬ c.LooksUp a)
    (hlater : ∀ c ∈ later, ¬ c.LooksUp a ∧ ¬ c.LooksUp b)
    (ha : t.Runs a identifier) (hb : t.Runs b identifier) : .unregister identifier ∈ between := by
  obtain ⟨u₀, hpast, hrest⟩ := steps_append_eq_some h
  obtain ⟨u₁, hfirst, hrest⟩ := steps_cons_eq_some hrest
  obtain ⟨u₂, hmiddle, hend⟩ := steps_append_eq_some hrest
  obtain ⟨u₃, hsecond, hlast⟩ := steps_cons_eq_some hend
  obtain ⟨f, hf, -, hfstage⟩ := ha
  obtain ⟨g, hg, -, hgstage⟩ := hb
  have hnone : ∀ c ∈ between ++ .lookUp b identifier ys :: later, ¬ c.LooksUp a := by
    intro c hc
    rcases List.mem_append.mp hc with hc | hc
    · exact hbetween c hc
    · rcases List.mem_cons.mp hc with rfl | hc
      · exact Ne.symm hab
      · exact (hlater c hc).1
  obtain ⟨hfindf, hregistry⟩ := find?_of_lookUp hfirst hnone hrest hf
  obtain ⟨hfindg, -⟩ := find?_of_lookUp hsecond (fun c hc => (hlater c hc).2) hlast hg
  refine Classical.byContradiction fun hkept => ?_
  obtain ⟨r, hfind, hgate⟩ := gate_steps hkept (hregistry ▸ hfindf) hmiddle
  rw [hfindg] at hfind
  injection hfind with hfind
  have hsound : t.Sound := sound_steps hs h
  refine hab (hsound.eq_of_gate hf hg ?_ ?_ ?_)
  · rw [← hgate, ← hfind]
  · rw [hfstage]
    nofun
  · rw [hgstage]
    nofun

/-- Whatever runs, a removal and a new registration let another run of the
identifier start beside it. -/
theorem overlap_after_removal (hs : s.Sound) {identifier : String} (ha : s.Runs a identifier)
    (hidle : s.flight b = none) (handler : H) (args : List String) :
    ∃ t, s.steps run [.unregister identifier, .register identifier handler,
        .lookUp b identifier args, .acquire b, .start b] = some t
      ∧ t.Runs a identifier ∧ t.Runs b identifier := by
  obtain ⟨f, hflight, hidentifier, hrunning⟩ := ha
  have hab : a ≠ b := by
    rintro rfl
    rw [hflight] at hidle
    cases hidle
  -- Nobody is past a gate that there never was.
  have hfree : s.holder s.registry.gates = none := by
    cases hholder : s.holder s.registry.gates with
    | none => rfl
    | some c =>
        obtain ⟨g, hg, hgate, -⟩ := (hs.held _ _).mp hholder
        obtain ⟨_, -, hflights⟩ := hs.owned
        exact absurd (hflights c g hg).1 (by omega)
  have hremoved : (s.registry.unregister identifier).2.find? identifier = none := by
    rw [find?_unregister, if_pos rfl]
  have hfind : ((s.registry.unregister identifier).2.insert identifier handler).find? identifier
      = some ⟨handler, s.registry.gates⟩ := by
    rw [find?_insert, if_pos rfl, hremoved]
    rfl
  refine ⟨_, by simp [steps, step, register, advance, hidle, hfind, hfree]; rfl, ?_, ?_⟩
  · exact ⟨f, by simp [Function.update_of_ne hab, hflight], hidentifier, hrunning⟩
  · exact ⟨_, by simp; rfl, rfl, rfl⟩

-- =========================================================== all together

/-- Of two runs of one identifier, the one that was looked up first saw it
removed before the look-up of the other. -/
theorem exists_removal_of_first {world : σ} {history p q l m between : List (Action P H)}
    {identifier : String} {xs ys : List String} (h : (new world).steps run history = some s)
    (hab : a ≠ b) (ha : s.Runs a identifier) (hb : s.Runs b identifier)
    (hl : history = p ++ .lookUp a identifier xs :: l) (hlnone : ∀ c ∈ l, ¬ c.LooksUp a)
    (hm : history = q ++ .lookUp b identifier ys :: m) (hmnone : ∀ c ∈ m, ¬ c.LooksUp b)
    (hq : q = p ++ between) :
    ∃ between, .unregister identifier ∈ between
      ∧ history = p ++ .lookUp a identifier xs :: (between ++ .lookUp b identifier ys :: m) := by
  subst hq
  rw [hl, List.append_assoc] at hm
  have htail := List.append_cancel_left hm
  cases between with
  | nil =>
      injection htail with hsame
      injection hsame with hsame
      exact absurd hsame hab
  | cons first rest =>
      injection htail with hfirst hrest
      subst hrest
      refine ⟨rest, ?_, hl⟩
      rw [hl] at h
      refine unregister_mem_of_overlap (sound_new world) h hab
        (fun c hc => hlnone c (List.mem_append_left _ hc)) (fun c hc => ⟨?_, hmnone c hc⟩) ha hb
      exact hlnone c (List.mem_append_right _ (List.mem_cons_of_mem _ hc))

/-- Two runs of one identifier have their look-ups in one order, with a
removal of the identifier in between. -/
theorem exists_removal_of_overlap {world : σ} {history : List (Action P H)} {identifier : String}
    (h : (new world).steps run history = some s) (hab : a ≠ b) (ha : s.Runs a identifier)
    (hb : s.Runs b identifier) :
    ∃ past between later xs ys, .unregister identifier ∈ between
      ∧ (history = past ++ .lookUp a identifier xs :: (between ++ .lookUp b identifier ys :: later)
        ∨ history
          = past ++ .lookUp b identifier xs :: (between ++ .lookUp a identifier ys :: later)) := by
  have hlookUp {c : P} (hc : s.Runs c identifier) :
      ∃ past args later, history = past ++ .lookUp c identifier args :: later
        ∧ ∀ d ∈ later, ¬ d.LooksUp c := by
    obtain ⟨f, hf, rfl, -⟩ := hc
    refine (lookUp_of_flight h hf).resolve_right ?_
    rintro ⟨-, g, hg, -⟩
    cases hg
  obtain ⟨p, xs, l, hl, hlnone⟩ := hlookUp ha
  obtain ⟨q, ys, m, hm, hmnone⟩ := hlookUp hb
  -- One of the two look-ups comes first.
  rcases List.append_eq_append_iff.mp (hl.symm.trans hm) with ⟨rest, hq, -⟩ | ⟨rest, hp, -⟩
  · obtain ⟨between, hremoved, heq⟩ :=
      exists_removal_of_first h hab ha hb hl hlnone hm hmnone hq
    exact ⟨p, between, m, xs, ys, hremoved, .inl heq⟩
  · obtain ⟨between, hremoved, heq⟩ :=
      exists_removal_of_first h hab.symm hb ha hm hmnone hl hlnone hp
    exact ⟨q, between, l, ys, xs, hremoved, .inr heq⟩

/-- Any number of parties, any handlers, and any steps in any order. Two
runs of one identifier are under way at once only where the identifier
was removed after the look-up of the one and before the look-up of the
other. A dispatch that has to wait does so for a dispatch of its own
identifier that can go on, and so for no other identifier. But while a
handler runs, it takes only a removal and a registration of its
identifier for the next dispatch to start beside it. -/
theorem runs_take_turns_until_removal (run : H → List String → σ → Observed (Outcome × σ))
    {world : σ} {history : List (Action P H)} {s : Traffic P H σ}
    (hreach : (new world).steps run history = some s) :
    (∀ (a b : P) (identifier : String), a ≠ b → s.Runs a identifier → s.Runs b identifier →
        ∃ past between later xs ys, .unregister identifier ∈ between
          ∧ (history
              = past ++ .lookUp a identifier xs :: (between ++ .lookUp b identifier ys :: later)
            ∨ history
              = past ++ .lookUp b identifier xs :: (between ++ .lookUp a identifier ys :: later)))
      ∧ (∀ (a : P) (f : Flight H), s.flight a = some f → f.stage = .waiting →
          s.step run (.acquire a) = none →
            ∃ b g, s.flight b = some g ∧ g.identifier = f.identifier
              ∧ ((s.step run (.start b)).isSome = true ∨ (s.step run (.finish b)).isSome = true))
      ∧ ∀ (a b : P) (identifier : String) (handler : H) (args : List String),
          s.Runs a identifier → s.flight b = none →
            ∃ t, s.steps run [.unregister identifier, .register identifier handler,
                .lookUp b identifier args, .acquire b, .start b] = some t
              ∧ t.Runs a identifier ∧ t.Runs b identifier := by
  have hsound : s.Sound := sound_steps (sound_new world) hreach
  refine ⟨?_, ?_, ?_⟩
  · intro a b identifier hab ha hb
    exact exists_removal_of_overlap hreach hab ha hb
  · intro a f hflight hwaiting hblocked
    exact exists_holder_of_blocked hsound hflight hwaiting hblocked
  · intro a b identifier handler args ha hidle
    exact overlap_after_removal hsound ha hidle handler args

/-- A second dispatch of an identifier waits for the first, also where the
handler was replaced meanwhile. -/
theorem runs_take_turns_until_removal_of_two :
    let run : Unit → List String → Unit → Observed (Outcome × Unit) := fun _ _ w => pure (.done, w)
    let history : List (Action Nat Unit) :=
      [.register "A" (), .lookUp 0 "A" [], .acquire 0, .start 0, .register "A" (),
        .lookUp 1 "A" []]
    ∃ s : Traffic Nat Unit Unit, (new ()).steps run history = some s
      ∧ s.Runs 0 "A" ∧ s.step run (.acquire 1) = none
      ∧ ∃ b g, s.flight b = some g ∧ g.identifier = "A"
        ∧ ((s.step run (.start b)).isSome = true ∨ (s.step run (.finish b)).isSome = true) := by
  intro run history
  have hreach : (new () : Traffic Nat Unit Unit).steps run history = some _ := rfl
  exact ⟨_, hreach, ⟨_, rfl, rfl, rfl⟩, rfl,
    (runs_take_turns_until_removal run hreach).2.1 1 _ rfl rfl rfl⟩

/-- Two parties run the handlers of one identifier at once. -/
theorem runs_overlap_after_removal :
    let run : Unit → List String → Unit → Observed (Outcome × Unit) := fun _ _ w => pure (.done, w)
    let history : List (Action Nat Unit) :=
      [.register "A" (), .lookUp 0 "A" [], .acquire 0, .start 0, .unregister "A",
        .register "A" (), .lookUp 1 "A" [], .acquire 1, .start 1]
    ∃ s : Traffic Nat Unit Unit, (new ()).steps run history = some s
      ∧ s.Runs 0 "A" ∧ s.Runs 1 "A" := by
  exact ⟨_, rfl, ⟨_, rfl, rfl, rfl⟩, ⟨_, rfl, rfl, rfl⟩⟩

end Traffic

end Registry

end Warden
