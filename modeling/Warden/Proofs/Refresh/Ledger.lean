/-
A registry over any sequence of calls.

# Contents

`Call` lists what can be asked of a registry, `perform` carries it out,
and `after` is what is left of a sequence of calls that started with
nothing. Beside the registry stand the world that handlers work on, and
the list of all runs there were, which is kept by running every handler
through `recorded`; it changes nothing else (`value_dispatch_recorded`).

# The ledger

`Ledger` is what a registry amounts to: a map in which the last write
counts, and the runs that are due by it. A registry agrees with its
ledger at first, and every call keeps that (`agrees_perform`), whatever
the handlers do and however they end; so it always does
(`agrees_after`), and all answers can be read off the ledger
(`answersBy_of_agrees`). What the ledger has under an identifier is in
turn what the calls say about it last (`current_ledger_eq_some_iff`).
-/
import Mathlib.Data.List.Induction
import Mathlib.Logic.Function.Basic
import Warden.Proofs.Text.ByteOrder
import Warden.Refresh.Registry

namespace Warden

open Text

/-- The status is that of success exactly if the handler is done, and no
outcome is told as unknown. -/
theorem Response.status_ofOutcome (o : Outcome) :
    ((ofOutcome o).status = 0 ↔ o = .done)
      ∧ (o ≠ .done → (ofOutcome o).status = -1)
      ∧ (ofOutcome o).unknown = false := by
  cases o <;> simp [ofOutcome, success, failure]

namespace Registry

variable {H σ : Type}

-- ================================================================= calls

/-- What can be asked of a registry of handlers. -/
inductive Call (H : Type) where
  | register (identifier : String) (handler : H)
  | unregister (identifier : String)
  | contains (identifier : String)
  | identifiers
  | dispatch (identifier : String) (args : List String)

/-- The calls that change what stands under an identifier. -/
def Call.Writes (identifier : String) : Call H → Prop
  | .register other _ => other = identifier
  | .unregister other => other = identifier
  | _ => False

inductive Answer where
  | nothing
  | told (yes : Bool)
  | listed (identifiers : List String)
  | response (r : Response)

/-- A registry, the world that its handlers work on, and their runs. -/
structure InUse (H σ : Type) where
  registry : Registry H
  world : σ
  ran : List (H × List String)

variable (run : H → List String → σ → Observed (Outcome × σ))

/-- Runs handlers as before, with a list of the runs beside the world. -/
def recorded (handler : H) (args : List String) (state : σ × List (H × List String)) :
    Observed (Outcome × (σ × List (H × List String))) := do
  let (outcome, world) ← run handler args state.1
  pure (outcome, (world, state.2 ++ [(handler, args)]))

def perform (s : InUse H σ) : Call H → Answer × InUse H σ
  | .register identifier handler =>
    (.nothing, { s with registry := (s.registry.register identifier handler).value })
  | .unregister identifier =>
    let (found, registry) := s.registry.unregister identifier
    (.told found, { s with registry })
  | .contains identifier => (.told (s.registry.contains identifier), s)
  | .identifiers => (.listed s.registry.identifiers, s)
  | .dispatch identifier args =>
    let (response, (world, ran)) :=
      (s.registry.dispatch (recorded run) identifier args (s.world, s.ran)).value
    (.response response, { s with world, ran })

/-- What is left of some calls, made of an empty registry in a world. -/
def after (world : σ) (past : List (Call H)) : InUse H σ :=
  past.foldl (fun s c => (perform run s c).2) ⟨new, world, []⟩

-- ============================================================ the ledger

/-- The handler that counts for each identifier, and the runs so far. -/
structure Ledger (H : Type) where
  current : String → Option H
  ran : List (H × List String)

def Ledger.enter (l : Ledger H) : Call H → Ledger H
  | .register identifier handler =>
    { l with current := Function.update l.current identifier (some handler) }
  | .unregister identifier => { l with current := Function.update l.current identifier none }
  | .dispatch identifier args =>
    { l with ran := l.ran ++ ((l.current identifier).map fun handler => (handler, args)).toList }
  | .contains _ | .identifiers => l

def ledger (past : List (Call H)) : Ledger H := past.foldl .enter ⟨fun _ => none, []⟩

theorem ledger_concat (past : List (Call H)) (c : Call H) :
    ledger (past ++ [c]) = (ledger past).enter c := by
  rw [ledger, List.foldl_append]
  rfl

/-- A call that does not write an identifier leaves its entry. -/
theorem current_enter_of_not_writes {c : Call H} {identifier : String}
    (h : ¬ c.Writes identifier) (l : Ledger H) :
    (l.enter c).current identifier = l.current identifier := by
  cases c with
  | register other handler => exact Function.update_of_ne (Ne.symm h) _ _
  | unregister other => exact Function.update_of_ne (Ne.symm h) _ _
  | contains other => rfl
  | identifiers => rfl
  | dispatch other args => rfl

/-- Calls that do not write an identifier leave it as it is, whatever
handlers they run. -/
theorem current_ledger_append {later : List (Call H)} {identifier : String}
    (h : ∀ c ∈ later, ¬ c.Writes identifier) (past : List (Call H)) :
    (ledger (past ++ later)).current identifier = (ledger past).current identifier := by
  induction later using List.reverseRecOn with
  | nil => rw [List.append_nil]
  | append_singleton before c ih =>
      rw [← List.append_assoc, ledger_concat,
        current_enter_of_not_writes (h c (List.mem_append_right before List.mem_cons_self)),
        ih fun d hd => h d (List.mem_append_left [c] hd)]

/-- The handler was registered, and no later call wrote the identifier. -/
def LastRegistered (past : List (Call H)) (identifier : String) (handler : H) : Prop :=
  ∃ before later, past = before ++ .register identifier handler :: later
    ∧ ∀ c ∈ later, ¬ c.Writes identifier

/-- The entry of an identifier is its last registration, if nothing took it
away. -/
theorem current_ledger_eq_some_iff {past : List (Call H)} {identifier : String} {handler : H} :
    (ledger past).current identifier = some handler ↔ LastRegistered past identifier handler := by
  constructor
  · induction past using List.reverseRecOn with
    | nil => intro h; cases h
    | append_singleton before c ih =>
        intro h
        rw [ledger_concat] at h
        -- A last call that writes the identifier is the registration itself;
        -- any other goes to the end of those after it.
        by_cases hwrites : c.Writes identifier
        case neg =>
          rw [current_enter_of_not_writes hwrites] at h
          obtain ⟨first, later, rfl, hlater⟩ := ih h
          refine ⟨first, later ++ [c], by rw [List.append_assoc, List.cons_append], ?_⟩
          intro d hd
          rcases List.mem_append.mp hd with hold | hnew
          · exact hlater d hold
          · rwa [List.mem_singleton.mp hnew]
        case pos =>
          cases c with
          | register other new =>
              obtain rfl : other = identifier := hwrites
              obtain rfl : new = handler := by simpa [Ledger.enter] using h
              exact ⟨before, [], rfl, fun d hd => absurd hd List.not_mem_nil⟩
          | unregister other =>
              obtain rfl : other = identifier := hwrites
              simp [Ledger.enter] at h
          | contains other => exact hwrites.elim
          | identifiers => exact hwrites.elim
          | dispatch other args => exact hwrites.elim
  · rintro ⟨before, later, rfl, hlater⟩
    rw [List.append_cons, current_ledger_append hlater, ledger_concat]
    simp [Ledger.enter]

-- ============================================================= agreement

/-- A registry in use has what its ledger says. -/
structure Agrees (s : InUse H σ) (l : Ledger H) : Prop where
  current : ∀ identifier,
    (s.registry.find? identifier).map (·.handler) = l.current identifier
  ran : s.ran = l.ran

/-- A dispatch runs what stands under its identifier, once, and keeping a
list of the runs has no effect on the run. -/
theorem value_dispatch_recorded (r : Registry H) (identifier : String) (args : List String)
    (world : σ) (ran : List (H × List String)) :
    let plain := (r.dispatch run identifier args world).value
    (r.dispatch (recorded run) identifier args (world, ran)).value
      = (plain.1, (plain.2, ran ++ (((r.find? identifier).map (·.handler)).map
          fun handler => (handler, args)).toList)) := by
  cases hfind : r.find? identifier with
  | none => simp [dispatch_of_find?_eq_none hfind]
  | some registration => simp [dispatch_of_find?_eq_some hfind, recorded]

variable {s : InUse H σ} {l : Ledger H}

/-- The step lemma: a call and its entry keep registry and ledger in
agreement. -/
theorem agrees_perform (h : Agrees s l) (c : Call H) : Agrees (perform run s c).2 (l.enter c) := by
  cases c with
  | register identifier handler =>
      refine ⟨fun other => ?_, h.ran⟩
      show ((s.registry.insert identifier handler).find? other).map (·.handler)
        = Function.update l.current identifier (some handler) other
      rw [handler_find?_insert, h.current, Function.update_apply]
      exact if_congr eq_comm rfl rfl
  | unregister identifier =>
      refine ⟨fun other => ?_, h.ran⟩
      show ((s.registry.unregister identifier).2.find? other).map (·.handler)
        = Function.update l.current identifier none other
      rw [find?_unregister, Function.update_apply, ← h.current]
      by_cases heq : identifier = other <;> simp [heq, eq_comm]
  | contains identifier => exact h
  | identifiers => exact h
  | dispatch identifier args =>
      refine ⟨h.current, ?_⟩
      show ((s.registry.dispatch (recorded run) identifier args (s.world, s.ran)).value).2.2 = _
      rw [value_dispatch_recorded, h.current, h.ran]
      rfl

/-- The run lemma, from a new registry on. -/
theorem agrees_after (world : σ) (past : List (Call H)) :
    Agrees (after run world past) (ledger past) := by
  induction past using List.reverseRecOn with
  | nil => exact ⟨fun identifier => by simp [after, ledger], rfl⟩
  | append_singleton before c ih =>
      rw [ledger_concat, after, List.foldl_append]
      exact agrees_perform run ih c

-- =============================================================== answers

/-- The ledger decides what every call comes back with and what it runs. -/
structure AnswersBy (s : InUse H σ) (l : Ledger H) : Prop where
  contains : ∀ identifier,
    perform run s (.contains identifier) = (.told (l.current identifier).isSome, s)
  unregister : ∀ identifier,
    (perform run s (.unregister identifier)).1 = .told (l.current identifier).isSome
  identifiers : ∃ names, perform run s .identifiers = (.listed names, s) ∧ ByteAscending names
    ∧ ∀ identifier, identifier ∈ names ↔ ∃ handler, l.current identifier = some handler
  /-- The handler runs in the world as it is, and that is all. -/
  mapped : ∀ identifier args handler, l.current identifier = some handler →
    let result := (run handler args s.world).value
    ∃ response,
      perform run s (.dispatch identifier args)
          = (.response response,
              ⟨s.registry, result.2, s.ran ++ [(handler, args)]⟩)
        ∧ (response.status = 0 ↔ result.1 = .done)
        ∧ (result.1 ≠ .done → response.status = -1)
        ∧ response.unknown = false
  unmapped : ∀ identifier args, l.current identifier = none →
    ∃ response, perform run s (.dispatch identifier args) = (.response response, s)
      ∧ response.status = -1 ∧ response.unknown = true
  /-- So it is without a list of the runs. -/
  unrecorded : ∀ identifier args,
    let plain := (s.registry.dispatch run identifier args s.world).value
    ∃ ran, perform run s (.dispatch identifier args)
      = (.response plain.1, ⟨s.registry, plain.2, ran⟩)

/-- A registry answers by a ledger that it agrees with. -/
theorem answersBy_of_agrees (h : Agrees s l) : AnswersBy run s l := by
  have hisSome (identifier : String) :
      s.registry.contains identifier = (l.current identifier).isSome := by
    rw [contains_eq_isSome, ← h.current, Option.isSome_map]
  have hdispatch (identifier : String) (args : List String) :
      let plain := (s.registry.dispatch run identifier args s.world).value
      perform run s (.dispatch identifier args) = (.response plain.1,
        ⟨s.registry, plain.2,
          s.ran ++ ((l.current identifier).map fun handler => (handler, args)).toList⟩) := by
    simp only [perform, value_dispatch_recorded, h.current]
  refine ⟨fun identifier => ?_, fun identifier => ?_, ?_, ?_, ?_, ?_⟩
  · show (Answer.told (s.registry.contains identifier), s) = _
    rw [hisSome]
  · show Answer.told (s.registry.contains identifier) = _
    rw [hisSome]
  · refine ⟨s.registry.identifiers, rfl, byteAscending_keys _, fun identifier => ?_⟩
    rw [← Option.isSome_iff_exists, ← hisSome]
    exact Std.TreeMap.mem_keys
  · intro identifier args handler hcurrent
    obtain ⟨registration, hfind, rfl⟩ :=
      Option.map_eq_some_iff.mp ((h.current identifier).trans hcurrent)
    refine ⟨.ofOutcome (run registration.handler args s.world).value.1, ?_,
      Response.status_ofOutcome _⟩
    rw [hdispatch, hcurrent, dispatch_of_find?_eq_some hfind]
    rfl
  · intro identifier args hcurrent
    have hfind : s.registry.find? identifier = none :=
      Option.map_eq_none_iff.mp ((h.current identifier).trans hcurrent)
    refine ⟨.unknownIdentifier identifier, ?_, rfl, rfl⟩
    rw [hdispatch, hcurrent, dispatch_of_find?_eq_none hfind, Option.map_none, Option.toList_none,
      List.append_nil]
  · exact fun identifier args => ⟨_, hdispatch identifier args⟩

/-- After any calls, with handlers that end in any way, a registry is the
map in which the last write counts. It holds under an identifier what was
registered there last, unless that was removed since; the runs so far are
those that the map asked for when they were; every further call is
answered by the map. What stands under an identifier stays, and can be
run again, until a call writes the identifier. -/
theorem answers_by_last_write (world : σ) (past : List (Call H)) :
    let s := after run world past
    let l := ledger past
    (∀ identifier handler,
        l.current identifier = some handler ↔ LastRegistered past identifier handler)
      ∧ Agrees s l ∧ AnswersBy run s l
      ∧ ∀ identifier later, (∀ c ∈ later, ¬ Call.Writes identifier c) →
          (ledger (past ++ later)).current identifier = l.current identifier
            ∧ AnswersBy run (after run world (past ++ later)) (ledger (past ++ later)) := by
  intro s l
  have hanswers (calls : List (Call H)) : AnswersBy run (after run world calls) (ledger calls) :=
    answersBy_of_agrees run (agrees_after run world calls)
  refine ⟨fun identifier handler => current_ledger_eq_some_iff, agrees_after run world past,
    hanswers past, fun identifier later hlater => ⟨current_ledger_append hlater past, ?_⟩⟩
  exact hanswers (past ++ later)

/-- A handler that breaks off, with the text of the response for unknown
identifiers, and one that takes its place. -/
theorem answers_by_last_write_replaced :
    let run : Outcome → List String → Unit → Observed (Outcome × Unit) := fun o _ w => pure (o, w)
    let broken : Outcome := .panicked (some "Invalid identifier: A")
    let first : List (Call Outcome) := [.register "A" broken]
    let past := first ++ [.dispatch "A" ["x"], .register "A" .done]
    (∃ response s, perform run (after run () first) (.dispatch "A" ["x"]) = (.response response, s)
        ∧ response.status = -1 ∧ response.unknown = false)
      ∧ ∃ response, perform run (after run () past) (.dispatch "A" ["y"])
          = (.response response,
              ⟨(after run () past).registry, (), [(broken, ["x"]), (.done, ["y"])]⟩)
        ∧ response.status = 0 := by
  intro run broken first past
  obtain ⟨-, -, hfirst, -⟩ := answers_by_last_write run () first
  obtain ⟨-, hagrees, hpast, -⟩ := answers_by_last_write run () past
  have hran : (after run () past).ran = [(broken, ["x"])] := hagrees.ran.trans rfl
  constructor
  · obtain ⟨response, hperform, -, hfailed, hunknown⟩ := hfirst.mapped "A" ["x"] broken rfl
    exact ⟨response, _, hperform, hfailed (by decide), hunknown⟩
  · obtain ⟨response, hperform, hstatus, -⟩ := hpast.mapped "A" ["y"] .done rfl
    refine ⟨response, ?_, hstatus.mpr rfl⟩
    rw [hperform, hran]
    rfl

end Registry

end Warden
