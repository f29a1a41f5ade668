/-
What is told of a dataset, against what happened to it.

# Contents

`Accounts` relates what was told of one dataset to the loads that were
attempted and to the size that is published before and after. It is kept
when steps follow each other (`Accounts.append`), and it holds of a step
that tells nothing of the dataset (`accounts_of_concerns`).

The four ways to load a dataset are one (`Dataset.loadWith`), and what is
told of a load and its outcome is proved once for all four
(`Dataset.accounts_toldOf`).
-/
import Warden.Proofs.Dataset.Source
import Warden.Proofs.Metrics

namespace Warden

open Observed

-- ==================================================== what notes are about

/-- The dataset that an event is about. -/
def Event.dataset? : Event → Option Dataset
  | .loading d _ | .invalidLine d _ _ | .parsed d _ _ | .loaded d _ _ | .notLoaded d _ => some d
  | _ => none

/-- The dataset that a measure is about. -/
def Measure.dataset? : Measure → Option Dataset
  | .reloaded d _ | .published d _ | .skipped d _ => some d
  | .refreshed _ _ => none

/-- The dataset that a note is about. -/
def Note.dataset? : Note → Option Dataset
  | .event e => e.dataset?
  | .measure x => x.dataset?
  | .call _ _ => none

/-- The error that a note logs for a dataset. -/
def Note.refusal? (d : Dataset) : Note → Option LoadError
  | .event (.notLoaded dataset cause) => if dataset = d then some cause else none
  | _ => none

/-- Whether a note warns of an invalid line of a dataset. -/
def Note.warnsOf (d : Dataset) : Note → Bool
  | .event (.invalidLine dataset _ _) => dataset = d
  | _ => false

/-- The errors that some notes log for a dataset. -/
def loggedErrors (d : Dataset) (told : List Note) : List LoadError :=
  told.filterMap (Note.refusal? d)

/-- The callback that a note says ran, with its arguments. -/
def Note.call? : Note → Option (Nat × List String)
  | .call registration args => some (registration, args)
  | _ => none

/-- The callbacks that ran, in order. -/
def callsOf (told : List Note) : List (Nat × List String) := told.filterMap Note.call?

theorem callsOf_append (told later : List Note) :
    callsOf (told ++ later) = callsOf told ++ callsOf later := List.filterMap_append

/-- Notes about these datasets at most, and about no refresh command and no
callback. -/
structure Concerns (subjects : Dataset → Prop) (told : List Note) : Prop where
  command : ∀ n ∈ told, n.refreshed? = none
  call : ∀ n ∈ told, n.call? = none
  dataset : ∀ n ∈ told, ∀ d, n.dataset? = some d → subjects d

variable {d : Dataset} {subjects others : Dataset → Prop} {n : Note} {told later : List Note}

theorem concerns_nil : Concerns subjects [] :=
  ⟨fun _ hn => absurd hn List.not_mem_nil, fun _ hn => absurd hn List.not_mem_nil,
    fun _ hn => absurd hn List.not_mem_nil⟩

theorem Concerns.append (h : Concerns subjects told) (h' : Concerns subjects later) :
    Concerns subjects (told ++ later) where
  command := fun n hn => (List.mem_append.mp hn).elim (h.command n) (h'.command n)
  call := fun n hn => (List.mem_append.mp hn).elim (h.call n) (h'.call n)
  dataset := fun n hn => (List.mem_append.mp hn).elim (h.dataset n) (h'.dataset n)

/-- What concerns some datasets concerns any that contain them. -/
theorem Concerns.mono (h : Concerns subjects told) (hsub : ∀ d, subjects d → others d) :
    Concerns others told :=
  ⟨h.command, h.call, fun n hn d hd => hsub d (h.dataset n hn d hd)⟩

theorem Concerns.tail (h : Concerns subjects (n :: told)) : Concerns subjects told :=
  ⟨fun n hn => h.command n (.tail _ hn), fun n hn => h.call n (.tail _ hn),
    fun n hn => h.dataset n (.tail _ hn)⟩

/-- A single note concerns the dataset that it names. -/
theorem concerns_note (hn : n.refreshed? = none) (hc : n.call? = none)
    (hd : ∀ d, n.dataset? = some d → subjects d) : Concerns subjects [n] :=
  ⟨fun _ hm => List.mem_singleton.mp hm ▸ hn, fun _ hm => List.mem_singleton.mp hm ▸ hc,
    fun _ hm => List.mem_singleton.mp hm ▸ hd⟩

/-- One more note about the one dataset. -/
theorem Concerns.cons (hn : n.refreshed? = none) (hd : n.dataset? = some d)
    (h : Concerns (· = d) told) : Concerns (· = d) (n :: told) := by
  have hc : n.call? = none := by
    cases n with
    | call registration args => cases hd
    | _ => rfl
  exact (concerns_note hn hc fun _ he => Option.some.inj (he.symm.trans hd)).append h

/-- One more note about no dataset. -/
theorem Concerns.silent (hn : n.refreshed? = none) (hc : n.call? = none) (hd : n.dataset? = none)
    (h : Concerns subjects told) : Concerns subjects (n :: told) :=
  (concerns_note hn hc fun _ he => nomatch hd.symm.trans he).append h

/-- Notes that concern datasets report no call of a callback. -/
theorem Concerns.callsOf_eq (h : Concerns subjects told) : callsOf told = [] :=
  List.filterMap_eq_nil_iff.mpr h.call

/-- Notes that concern datasets report no refresh command. -/
theorem Concerns.refreshedCommands_eq (h : Concerns subjects told) :
    refreshedCommands told = [] :=
  List.filterMap_eq_nil_iff.mpr h.command

-- ============================================================ the accounts

/-- What was told of a dataset is what happened to it: its counters are
the numbers of its loads, its errors are theirs, each skipped line was
warned of, and the size published last is the size there is. -/
structure Accounts (d : Dataset) (before after : Nat) (loads : List (Except LoadError String))
    (told : List Note) : Prop where
  succeeded : tally (.reloads d true) told = loads.countP (·.isOk)
  failed : tally (.reloads d false) told = (loads.flatMap refusals).length
  logged : loggedErrors d told = loads.flatMap refusals
  skipped : tally (.invalidLines d) told = told.countP (Note.warnsOf d)
  size : after = (publishedSizes d told).getLastD before

variable {a b c : Nat} {loads attempts : List (Except LoadError String)}

theorem Accounts.nil : Accounts d a a [] [] := ⟨rfl, rfl, rfl, rfl, rfl⟩

/-- Accounts of one row of notes after another add up. -/
theorem Accounts.append (h : Accounts d a b loads told) (h' : Accounts d b c attempts later) :
    Accounts d a c (loads ++ attempts) (told ++ later) where
  succeeded := by rw [tally_append, h.succeeded, h'.succeeded, List.countP_append]
  failed := by
    rw [tally_append, h.failed, h'.failed, List.flatMap_append, List.length_append]
  logged := by
    rw [loggedErrors, List.filterMap_append, List.flatMap_append]
    exact congrArg₂ (· ++ ·) h.logged h'.logged
  skipped := by rw [tally_append, h.skipped, h'.skipped, List.countP_append]
  size := by
    have hb := h.size
    have hc := h'.size
    rw [List.getLastD_eq_getLast?] at hb hc ⊢
    rw [publishedSizes_append, List.getLast?_append, Option.getD_or, ← hb, ← hc]

/-- Without a load first. -/
theorem Accounts.silent_append (h : Accounts d a b [] told) (h' : Accounts d b c loads later) :
    Accounts d a c loads (told ++ later) := h.append h'

/-- Without a load after. -/
theorem Accounts.append_silent (h : Accounts d a b loads told) (h' : Accounts d b c [] later) :
    Accounts d a c loads (told ++ later) := by
  have hboth := h.append h'
  rwa [List.append_nil] at hboth

/-- A note that is not about a dataset leaves its accounts alone. -/
theorem accounts_note (h : n.dataset? ≠ some d) (a : Nat) :
    Accounts d a a [] [n] := by
  cases n with
  | call registration args => exact ⟨rfl, rfl, rfl, rfl, rfl⟩
  | event x =>
      cases x with
      | invalidLine dataset path line =>
          have hne : dataset ≠ d := fun heq => h (congrArg some heq)
          exact ⟨rfl, rfl, rfl, by simp [Note.warnsOf, Note.weight, hne], rfl⟩
      | notLoaded dataset cause =>
          have hne : dataset ≠ d := fun heq => h (congrArg some heq)
          exact ⟨rfl, rfl, by simp [loggedErrors, Note.refusal?, hne], rfl, rfl⟩
      | _ => exact ⟨rfl, rfl, rfl, rfl, rfl⟩
  | measure x =>
      cases x with
      | reloaded dataset success =>
          have hne : d ≠ dataset := fun heq => h (congrArg some heq.symm)
          constructor <;>
            simp [Note.weight, Measure.weight, Note.warnsOf, Note.refusal?, loggedErrors,
              publishedSizes, Note.published?, hne]
      | published dataset entries =>
          have hne : dataset ≠ d := fun heq => h (congrArg some heq)
          constructor <;>
            simp [Note.weight, Measure.weight, Note.warnsOf, Note.refusal?, loggedErrors,
              publishedSizes, Note.published?, hne]
      | skipped dataset lines =>
          have hne : d ≠ dataset := fun heq => h (congrArg some heq.symm)
          constructor <;>
            simp [Note.weight, Measure.weight, Note.warnsOf, Note.refusal?, loggedErrors,
              publishedSizes, Note.published?, hne]
      | refreshed identifier status => exact ⟨rfl, rfl, rfl, rfl, rfl⟩

/-- A note of another dataset changes no account. -/
theorem Accounts.cons (hn : n.dataset? ≠ some d) (h : Accounts d a b loads told) :
    Accounts d a b loads (n :: told) := (accounts_note hn a).silent_append h

/-- One more note about no dataset. -/
theorem Accounts.silent (hn : n.dataset? = none) (h : Accounts d a b loads told) :
    Accounts d a b loads (n :: told) := .cons (fun he => nomatch hn.symm.trans he) h

/-- So do notes about other datasets. -/
theorem accounts_of_concerns (h : Concerns subjects told) (hd : ¬ subjects d) (a : Nat) :
    Accounts d a a [] told := by
  induction told with
  | nil => exact .nil
  | cons n rest ih =>
      have hfirst : n.dataset? ≠ some d := fun heq => hd (h.dataset n List.mem_cons_self d heq)
      exact .cons hfirst (ih h.tail)

-- ========================================================== loading a file

namespace Dataset

variable (d : Dataset) (files : FileSystem) (file : Option String) {α : Type}

/-- Loads a dataset and makes something of its contents, or finds that
there is nothing to be made of them; then tells how many it has. -/
def loadWith (make : String → Contents → Except LoadError α) (size : α → Nat) :
    Observed (Except LoadError α) := do
  match ← d.load files file with
  | .error e => pure (.error e)
  | .ok (path, contents) =>
    match make path contents with
    | .error e => pure (.error e)
    | .ok a => do
      d.reportLoaded path (size a)
      pure (.ok a)

variable {d} in
/-- Remarks on a parsed file are its skipped lines, their number and the
sizes. -/
theorem mem_remarks {path : String} {c : Contents} (hn : n ∈ d.remarks path c) :
    (∃ line, n = .event (.invalidLine d path line))
      ∨ n = .measure (.skipped d c.invalid.length)
      ∨ n = .event (.parsed d c.records.length c.invalid.length) := by
  rcases List.mem_append.mp hn with hn | hn
  · rcases List.mem_append.mp hn with hn | hn
    · obtain ⟨line, -, rfl⟩ := List.mem_map.mp hn
      exact .inl ⟨line, rfl⟩
    · split at hn
      case isTrue => cases hn
      case isFalse => exact .inr (.inl (List.mem_singleton.mp hn))
  · exact .inr (.inr (List.mem_singleton.mp hn))

/-- Remarks concern the dataset that was parsed. -/
theorem concerns_remarks (path : String) (c : Contents) :
    Concerns (· = d) (d.remarks path c) := by
  constructor
  case command =>
    intro n hn
    rcases mem_remarks hn with ⟨line, rfl⟩ | rfl | rfl <;> rfl
  case call =>
    intro n hn
    rcases mem_remarks hn with ⟨line, rfl⟩ | rfl | rfl <;> rfl
  case dataset =>
    intro n hn
    rcases mem_remarks hn with ⟨line, rfl⟩ | rfl | rfl <;>
      exact fun _ hd => (Option.some.inj hd).symm

/-- As many lines are counted as were warned of, and nothing else is. -/
theorem accounts_remarks (path : String) (c : Contents) (a : Nat) :
    Accounts d a a [] (d.remarks path c) := by
  have huncounted (success : Bool) : tally (.reloads d success) (d.remarks path c) = 0 :=
    tally_eq_zero fun n hn => by rcases mem_remarks hn with ⟨line, rfl⟩ | rfl | rfl <;> rfl
  have hunpublished : publishedSizes d (d.remarks path c) = [] :=
    List.filterMap_eq_nil_iff.mpr fun n hn => by
      rcases mem_remarks hn with ⟨line, rfl⟩ | rfl | rfl <;> rfl
  refine ⟨huncounted true, huncounted false, ?_, ?_, by rw [hunpublished]; rfl⟩
  · refine List.filterMap_eq_nil_iff.mpr fun n hn => ?_
    rcases mem_remarks hn with ⟨line, rfl⟩ | rfl | rfl <;> rfl
  · have hwarned : (d.remarks path c).countP (Note.warnsOf d) = c.invalid.length := by
      unfold remarks
      cases c.invalid <;> simp [Note.warnsOf, List.countP_map, Function.comp_def]
    rw [hwarned]
    unfold remarks
    cases c.invalid <;>
      simp [tally, Note.weight, Measure.weight, Function.comp_def]

/-- Reading a file makes notes of its dataset alone. -/
theorem concerns_load : Concerns (· = d) (d.load files file).notes := by
  unfold load
  cases d.path? file with
  | error e => exact concerns_nil
  | ok path =>
      simp only [notes_bind]
      refine .cons rfl rfl ?_
      cases files.readText path with
      | error cause => exact concerns_nil
      | ok text => exact (d.concerns_remarks path _).append concerns_nil

/-- Reading a file neither succeeds nor fails by itself, and publishes
nothing. -/
theorem accounts_load (a : Nat) : Accounts d a a [] (d.load files file).notes := by
  have hloading (path : String) : Accounts d a a [] [.event (.loading d path)] :=
    ⟨rfl, rfl, rfl, rfl, rfl⟩
  unfold load
  cases d.path? file with
  | error e => exact .nil
  | ok path =>
      simp only [notes_bind]
      refine (hloading path).silent_append ?_
      cases files.readText path with
      | error cause => exact .nil
      | ok text => exact (d.accounts_remarks path _ a).silent_append .nil

-- ======================================================== what is made of it

variable (make : String → Contents → Except LoadError α) (size : α → Nat)

/-- Loading a dataset makes notes of it alone. -/
theorem concerns_loadWith : Concerns (· = d) (d.loadWith files file make size).notes := by
  unfold loadWith
  simp only [notes_bind, value_load]
  refine (d.concerns_load files file).append ?_
  cases d.fetch files file with
  | error e => exact concerns_nil
  | ok found =>
      dsimp only
      cases make found.1 found.2 with
      | error e => exact concerns_nil
      | ok a => exact .cons rfl rfl (.cons rfl rfl concerns_nil)

/-- A size is told exactly if there is something of that size to publish. -/
theorem accounts_loadWith (slot : Slot α) :
    Accounts d (size slot.current)
      (size (slot.settle (d.loadWith files file make size).value).current) []
      (d.loadWith files file make size).notes := by
  unfold loadWith
  simp only [notes_bind, value_bind, value_load]
  refine (d.accounts_load files file _).silent_append ?_
  cases d.fetch files file with
  | error e => exact .nil
  | ok found =>
      dsimp only
      cases make found.1 found.2 with
      | error e => exact .nil
      | ok a => cases d <;> exact ⟨rfl, rfl, rfl, rfl, rfl⟩

/-- The report of a reload concerns its own dataset. -/
theorem concerns_reportReload (result : Except LoadError α) :
    Concerns (· = d) (d.reportReload result).notes := by
  cases result with
  | ok a => exact .cons rfl rfl concerns_nil
  | error cause => exact .cons rfl rfl (.cons rfl rfl concerns_nil)

/-- A load is reported once, as what it was. -/
theorem accounts_reportReload (load : Except LoadError String) (f : String → α) (a : Nat) :
    Accounts d a a [load] (d.reportReload (load.map f)).notes := by
  cases load with
  | ok text => cases d <;> exact ⟨rfl, rfl, rfl, rfl, rfl⟩
  | error cause => cases d <;> exact ⟨rfl, rfl, rfl, rfl, rfl⟩

/-- What a load tells, with the report on it. -/
def toldOf (load : Observed (Except LoadError α)) : List Note :=
  load.notes ++ (d.reportReload load.value).notes

variable {d files file make size} {load : Observed (Except LoadError α)}

/-- All that is told of a reload concerns its own dataset. -/
theorem concerns_toldOf (hload : load = d.loadWith files file make size) :
    Concerns (· = d) (d.toldOf load) := by
  subst hload
  exact (d.concerns_loadWith files file make size).append (d.concerns_reportReload _)

/-- A load that gives something of its source's text is told of as the one
load there was, and as a size if that is published. -/
theorem accounts_toldOf (hload : load = d.loadWith files file make size) {f : String → α}
    (hvalue : load.value = (d.source files file).map f) (slot : Slot α) :
    Accounts d (size slot.current) (size (slot.settle ((d.source files file).map f)).current)
      [d.source files file] (d.toldOf load) := by
  have hloaded := d.accounts_loadWith files file make size slot
  rw [← hload, hvalue] at hloaded
  unfold toldOf
  rw [hvalue]
  exact hloaded.silent_append (d.accounts_reportReload _ f _)

end Dataset

end Warden
