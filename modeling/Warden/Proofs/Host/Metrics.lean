/-
The metrics of a service after any run.

# Contents

A run adds up what its commands tell, one after the other. Of each
dataset that is the accounts of the loads that the commands attempted
(`accounts_performEach`). Of refresh commands it is every dispatch once,
with its identifier if that was registered then
(`refreshedCommands_performEach`). The metrics are made of what was told
and nothing else, so they show what happened to the service
(`metrics_tell_the_truth`).
-/
import Warden.Proofs.Host.Accounting

namespace Warden

-- ========================================================= fresh metrics

section Fresh

variable {d : Dataset} {size : Nat} {loads : List (Except LoadError String)} {told : List Note}

/-- Metrics that begin with the accounts of a dataset show its size. -/
theorem Accounts.gauge_eq (h : Accounts d 0 size loads told) :
    let m := Metrics.recordAll {} told
    (∀ entries, m.get? (.entries d) = some entries → entries = size)
      ∧ (m.get? (.entries d) = none → size = 0) := by
  intro m
  have hgauge : m.get? (.entries d) = (publishedSizes d told).getLast? := by
    rw [Metrics.gauge_recordAll, Metrics.get?_empty, Option.or_none]
  have hsize := h.size
  rw [List.getLastD_eq_getLast?] at hsize
  rw [hgauge]
  constructor
  · intro entries hset
    rw [hsize, hset, Option.getD_some]
  · intro hunset
    rw [hsize, hunset, Option.getD_none]

/-- A counter shows what was noted for it since the metrics were new. -/
theorem Metrics.number_fresh {c : Series} (hc : IsCounter c) (told : List Note) :
    (recordAll {} told).number c = tally c told := by
  rw [number_recordAll hc]
  exact Nat.zero_add _

/-- And they count its loads and its skipped lines. -/
theorem Accounts.counters_eq (h : Accounts d 0 size loads told) :
    let m := Metrics.recordAll {} told
    m.number (.reloads d true) = loads.countP (·.isOk)
      ∧ m.number (.reloads d false) = (loads.flatMap refusals).length
      ∧ loggedErrors d told = loads.flatMap refusals
      ∧ m.number (.invalidLines d) = told.countP (Note.warnsOf d) :=
  ⟨(Metrics.number_fresh (fun _ => by simp) told).trans h.succeeded,
    (Metrics.number_fresh (fun _ => by simp) told).trans h.failed, h.logged,
    (Metrics.number_fresh (fun _ => by simp) told).trans h.skipped⟩

variable {dispatches : List (String × Bool)}
  (hissued : (refreshedCommands told).map Prod.fst
    = dispatches.map fun i => if i.2 then some i.1 else none)
include hissued

/-- All refresh commands together are counted once each. -/
theorem Metrics.commands_fresh : (recordAll {} told).commands = dispatches.length := by
  have hlength := congrArg List.length hissued
  rw [List.length_map, List.length_map] at hlength
  rw [commands_recordAll told {} keyed_empty, hlength]
  exact Nat.zero_add _

/-- A label is that of unknown identifiers, or an identifier that was
registered. -/
theorem Metrics.label_fresh {label : String} {status : Int} {n : Nat}
    (hset : (recordAll {} told).get? (.commands label status) = some n) :
    label = unknownLabel ∨ (label, true) ∈ dispatches := by
  rcases label_recordAll told {} hset with hbefore | ⟨identifier, hmem, hlabel⟩
  · exact absurd (get?_empty _) hbefore
  · have hdispatched : identifier ∈ (refreshedCommands told).map Prod.fst :=
      List.mem_map_of_mem hmem
    rw [hissued] at hdispatched
    obtain ⟨⟨name, registered⟩, hname, heq⟩ := List.mem_map.mp hdispatched
    cases registered with
    | false =>
        obtain rfl : none = identifier := heq
        exact .inl hlabel.symm
    | true =>
        obtain rfl : some name = identifier := heq
        obtain rfl : name = label := hlabel
        exact .inr hname

end Fresh

namespace Host

variable (files : FileSystem) {h : Host} {number : Nat} {d : Dataset}

-- ============================================================= the commands

/-- The identifiers that a command dispatches, in order. -/
def dispatched (h : Host) : Command → List String
  | .dispatch identifier _ => [identifier]
  | .reloadAll => h.registry.identifiers
  | _ => []

/-- Each dispatch of a row is measured under its identifier, or as unknown. -/
theorem refreshedCommands_dispatchEach :
    ∀ (identifiers : List String) (h : Host),
      (refreshedCommands (dispatchEach files identifiers h).notes).map Prod.fst
        = identifiers.map fun i => if h.registry.contains i then some i else none := by
  intro identifiers
  induction identifiers with
  | nil => intro h; rfl
  | cons identifier rest ih =>
      intro h
      rw [notes_dispatchEach_cons, refreshedCommands_append, List.map_append,
        refreshedCommands_dispatch, ih]
      rfl

/-- Each dispatch that a command makes is measured under its identifier, or
as unknown. -/
theorem refreshedCommands_perform (h : Host) (c : Command) :
    (refreshedCommands (h.perform files c).notes).map Prod.fst
      = (h.dispatched c).map fun i => if h.registry.contains i then some i else none := by
  cases c with
  | start source =>
      have hnotes : (h.perform files (.start source)).notes = (h.start files source).notes :=
        Observed.notes_map _ _
      rw [hnotes]
      cases hcreate : (Service.create files source).value with
      | error e => rw [start_of_error hcreate]; rfl
      | ok s =>
          obtain ⟨config, algorithm, hload, hname, -⟩ := (Service.create_eq_ok_iff files).mp hcreate
          obtain ⟨registered, hregistered, htold⟩ := notes_start files hload hname h
          rw [htold, refreshedCommands_append, hregistered.refreshedCommands_eq,
            (Service.concerns_initialLoad ..).refreshedCommands_eq]
          rfl
  | register identifier n behaviour => rfl
  | unregister identifier => rfl
  | dispatch identifier args =>
      have hnotes : (h.perform files (.dispatch identifier args)).notes
          = (h.dispatch files identifier args).notes := Observed.notes_map _ _
      rw [hnotes, refreshedCommands_dispatch]
      rfl
  | reloadAll =>
      have hnotes : (h.perform files .reloadAll).notes = (h.reloadAll files).notes :=
        Observed.notes_map _ _
      rw [hnotes]
      exact refreshedCommands_dispatchEach files h.registry.identifiers h
  | reload n config q =>
      cases hservice : h.service? n with
      | none =>
          have hnothing : h.perform files (.reload n config q) = pure h := by
            simp [perform, hservice]
          rw [hnothing]
          rfl
      | some s =>
          rw [perform_reload files hservice, Observed.notes_map,
            (Service.concerns_reload ..).refreshedCommands_eq]
          rfl
  | shutdown => rfl

-- ================================================================== a run

/-- Carries out some commands in order. -/
def performEach : List (FileSystem × Command) → Host → Observed Host
  | [], h => pure h
  | c :: rest, h => do
    let h ← h.perform c.1 c.2
    performEach rest h

/-- The loads of a dataset of a service that a run attempts, in order. -/
def loadsOf (number : Nat) (d : Dataset) (h : Host) (run : List (FileSystem × Command)) :
    List (Except LoadError String) :=
  settings (fun h c => (h.perform c.1 c.2).value) (fun h c => h.attempt? c.1 number d c.2) h run

/-- The dispatches of a run, in order, each with whether its identifier
was registered then. -/
def dispatches : Host → List (FileSystem × Command) → List (String × Bool)
  | _, [] => []
  | h, c :: rest =>
    ((h.dispatched c.2).map fun i => (i, h.registry.contains i))
      ++ dispatches (h.perform c.1 c.2).value rest

/-- Commands change the host one after the other. -/
theorem value_performEach :
    ∀ (run : List (FileSystem × Command)) (h : Host),
      (performEach run h).value = run.foldl (fun h c => (h.perform c.1 c.2).value) h := by
  intro run
  induction run with
  | nil => intro h; rfl
  | cons c rest ih => intro h; exact ih _

/-- A run goes on from where the past has led. -/
theorem after_append (past run : List (FileSystem × Command)) :
    after (past ++ run) = ((after past).performEach run).value := by
  rw [value_performEach, after, after, List.foldl_append]

/-- The run lemma of the accounts: what one command accounts for adds up
over a run. -/
theorem accounts_performEach (d : Dataset) :
    ∀ (run : List (FileSystem × Command)) (h : Host), h.Alone number →
      (∀ c ∈ run, c.2.KeepsTo number) →
      (h.performEach run).value.Alone number
        ∧ Accounts d ((h.serviceAt number).size d)
          (((h.performEach run).value.serviceAt number).size d)
          (h.loadsOf number d run) (h.performEach run).notes := by
  intro run
  induction run with
  | nil => intro h halone _; exact ⟨halone, .nil⟩
  | cons c rest ih =>
      intro h halone hrun
      have hc := hrun c List.mem_cons_self
      obtain ⟨hleft, hrest⟩ := ih _ (halone.perform c.1 hc) fun c' hc' =>
        hrun c' (List.mem_cons_of_mem _ hc')
      exact ⟨hleft, (accounts_perform c.1 halone d hc).append hrest⟩

/-- The run lemma of the refresh commands. -/
theorem refreshedCommands_performEach :
    ∀ (run : List (FileSystem × Command)) (h : Host),
      (refreshedCommands (h.performEach run).notes).map Prod.fst
        = (h.dispatches run).map fun i => if i.2 then some i.1 else none := by
  intro run
  induction run with
  | nil => intro h; rfl
  | cons c rest ih =>
      intro h
      have hnotes : (h.performEach (c :: rest)).notes
          = (h.perform c.1 c.2).notes ++ ((h.perform c.1 c.2).value.performEach rest).notes := rfl
      rw [hnotes, refreshedCommands_append, List.map_append, refreshedCommands_perform, ih,
        dispatches, List.map_append, List.map_map]
      rfl

/-- The accounts of a service from its start on. -/
theorem accounts_since_start (past later : List (FileSystem × Command)) {source : ConfigSource}
    {s : Service} (hcreate : (Service.create files source).value = .ok s)
    (hlater : ∀ c ∈ later, c.2.KeepsTo (after past).services.length) :
    let run := (files, .start source) :: later
    let number := (after past).services.length
    (after (past ++ run)).Alone number
      ∧ ∀ d, Accounts d 0 (((after (past ++ run)).serviceAt number).size d)
        ((after past).loadsOf number d run) ((after past).performEach run).notes := by
  intro run number
  have halone := alone_start files hcreate (sound_after past)
  have hnotes : ((after past).performEach run).notes = ((after past).start files source).notes
      ++ (((after past).start files source).value.2.performEach later).notes :=
    congrArg (· ++ _) (Observed.notes_map _ _)
  have hafter : after (past ++ run)
      = (((after past).start files source).value.2.performEach later).value := after_append past run
  rw [hafter, hnotes]
  refine ⟨(accounts_performEach .groups later _ halone hlater).1, fun d => ?_⟩
  exact (accounts_start files hcreate (after past) d).append
    (accounts_performEach d later _ halone hlater).2

/-- A load of a text publishes what the text has. -/
theorem holds_perform (hsound : Sound h) {c : Command} {text : String}
    (hload : h.attempt? files number d c = some (.ok text)) :
    ((h.perform files c).value.serviceAt number).Holds text d := by
  obtain ⟨config, hsettings, hattempt⟩ := Option.bind_eq_some_iff.mp hload
  have hsame := sameIn_perform files hsound number d.policy c
  rw [hsettings] at hsame
  exact hsame.holds (Service.holds_reload files config (h.serviceAt number) hattempt)

/-- On a host of any past a service was started, and any commands came
after that but another start or a reload of another service. Then for each
dataset the gauge is the size of what the service has published, and if it
was never set, nothing is published. The counters of reloads are the
numbers of loads that gave a text and of those that gave an error, the
errors being those that were logged; a load of a text publishes what the
text has, and what a reload comes back with are the errors of its loads.
The counter of invalid lines is the number of lines warned of. The
counters of refresh commands add up to the dispatches, and each has the
common label or that of an identifier that was registered when dispatched. -/
theorem metrics_tell_the_truth (past later : List (FileSystem × Command)) (files : FileSystem)
    (source : ConfigSource) {number : Nat} {s : Service}
    (hstart : ((after past).start files source).value.1 = .ok (number, s))
    (hlater : ∀ c ∈ later, c.2.KeepsTo number) :
    let run := (files, .start source) :: later
    let told := ((after past).performEach run).notes
    let m := Metrics.recordAll {} told
    (∃ t, (after (past ++ run)).service? number = some t
        ∧ ∀ d, (∀ entries, m.get? (.entries d) = some entries → entries = t.size d)
          ∧ (m.get? (.entries d) = none → t.size d = 0))
      ∧ (∀ d, let loads := (after past).loadsOf number d run
          m.number (.reloads d true) = loads.countP (·.isOk)
            ∧ m.number (.reloads d false) = (loads.flatMap refusals).length
            ∧ loggedErrors d told = loads.flatMap refusals
            ∧ m.number (.invalidLines d) = told.countP (Note.warnsOf d))
      ∧ (∀ past' c d text, (after past').attempt? c.1 number d c.2 = some (.ok text) →
          ((after (past' ++ [c])).serviceAt number).Holds text d)
      ∧ (∀ files config (t : Service) p,
          (t.reload files config p).value.1 = ReloadError.check (p.refused files config))
      ∧ m.commands = ((after past).dispatches run).length
      ∧ ∀ label status n, m.get? (.commands label status) = some n →
          label = unknownLabel ∨ (label, true) ∈ (after past).dispatches run := by
  intro run told m
  obtain ⟨hcreate, rfl⟩ := start_eq_ok_iff.mp hstart
  obtain ⟨halone, haccounts⟩ := accounts_since_start files past later hcreate hlater
  have hissued : (refreshedCommands told).map Prod.fst
      = ((after past).dispatches run).map fun i => if i.2 then some i.1 else none :=
    refreshedCommands_performEach run (after past)
  refine ⟨⟨_, service?_eq_some_serviceAt (by simp [service?, run, halone.present]),
      fun d => (haccounts d).gauge_eq⟩, fun d => (haccounts d).counters_eq, ?_,
    fun files config t p => t.result_reload_eq files config p, Metrics.commands_fresh hissued,
    fun label status n hset => Metrics.label_fresh hissued hset⟩
  intro past' c d text hload
  rw [after_append]
  exact holds_perform c.1 (sound_after past') hload

/-- A service without any file, one command that nobody registered, and
one that finds no group file. -/
theorem metrics_tell_the_truth_of_two :
    let files := FileSystem.empty []
    let later : List (FileSystem × Command) :=
      [(files, .dispatch "x" []), (files, .dispatch Policy.groups.identifier [])]
    let s := ((Service.new (.fixed {}) .md5).initialLoad files {}).value
    let told := (new.performEach ((files, .start (.fixed {})) :: later)).notes
    let m := Metrics.recordAll {} told
    (new.start files (.fixed {})).value.1 = .ok (0, s)
      ∧ (∀ c ∈ later, c.2.KeepsTo 0)
      ∧ m.number (.reloads .groups true) = 0 ∧ m.number (.reloads .groups false) = 2
      ∧ m.commands = 2 := by
  intro files later s told m
  have hstart : ((after []).start files (.fixed {})).value.1 = .ok (0, s) :=
    start_eq_ok_iff.mpr
      ⟨(Service.create_eq_ok_iff _).mpr ⟨{}, .md5, rfl, by decide, rfl⟩, rfl⟩
  have hlater : ∀ c ∈ later, c.2.KeepsTo 0 := by
    intro c hc
    simp only [later, List.mem_cons, List.not_mem_nil, or_false] at hc
    rcases hc with rfl | rfl <;> trivial
  obtain ⟨-, hloads, -, -, hcommands, -⟩ :=
    metrics_tell_the_truth [] later files (.fixed {}) hstart hlater
  obtain ⟨htrue, hfalse, -⟩ := hloads .groups
  refine ⟨hstart, hlater, htrue.trans ?_, hfalse.trans ?_, hcommands.trans ?_⟩
  · decide +kernel
  · decide +kernel
  · decide +kernel

end Host

end Warden
