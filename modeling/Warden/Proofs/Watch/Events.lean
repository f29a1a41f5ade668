/-
Events of changes, between the change and its handling.

# Contents

Events wait until they are handled, and changes go on meanwhile: a
`Watching` has a queue of them, and an `Incident` is a change together
with what is reported of it, or the handling of the first event. When an
event is handled the files are read as they are by then, not as they were
when it was reported. Two inductions over a run are stated once, for what
every incident preserves (`run_induction`) and for what one of them
begins (`run_of_mem`).

The watcher of the program handles what each change concerns before the
next change is made (`promptly`). It is one of these runs
(`watch_eq_run`), and one that leaves no event waiting.
-/
import Warden.Proofs.Watch.Changes
import Warden.Proofs.Watch.Targets

namespace Warden

open Text Warden.Path

-- ====================================================== events that wait

/-- A watcher at work. -/
structure Watching where
  files : FileSystem
  watched : List Watched
  /-- The paths of each event that was reported and not handled yet. -/
  pending : List (List String)
  host : Host

/-- What happens to a watcher. -/
inductive Incident where
  /-- A change is made, and these events are reported of it. -/
  | change (c : Change) (events : List (List String))
  /-- The first event that waits is handled. -/
  | handle

/-- What an incident reports. -/
def Incident.events : Incident → List (List String)
  | .change _ events => events
  | .handle => []

namespace Watching

variable (targets : List WatchTarget)

/-- What the program watches when it starts to watch the files of a
configuration. -/
def start (files : FileSystem) (config : Config) (h : Host) : Except WatchError Watching :=
  (watchedDirectories files (watchTargets files config)).map fun directories =>
    ⟨files, (firsts (directories.map (·.2))).map fun place => ⟨place, place⟩, [], h⟩

def next (w : Watching) : Incident → Watching
  | .change c events =>
    { w with
      files := c.apply w.files
      watched := w.watched.filterMap (·.after w.files c)
      pending := w.pending ++ events }
  | .handle =>
    match w.pending with
    | [] => w
    | paths :: rest =>
      { w with
        pending := rest
        host := (refreshEach w.files (affected targets paths) w.host).value.2 }

def run (w : Watching) : List Incident → Watching
  | [] => w
  | i :: rest => (w.next targets i).run rest

/-- The incidents of a run, each with what it finds. -/
def history (w : Watching) : List Incident → List (Watching × Incident)
  | [] => []
  | i :: rest => (w, i) :: (w.next targets i).history rest

/-- Every place that a change touches is named by an event, wherever a
watched directory reports it. -/
def Reported (w : Watching) : Incident → Prop
  | .change c events =>
    ∀ place ∈ c.touched w.files, ∀ name ∈ w.watched.filterMap (·.report? place),
      ∃ paths ∈ events, name.path ∈ paths
  | .handle => True

/-- A place is created, written, or renamed to or from. -/
def Touches (w : Watching) (place : Place) : Incident → Prop
  | .change c _ => place ∈ c.touched w.files
  | .handle => False

/-- The directories and links before a path stay where they are, and its
file is written under no other name. -/
def Spares (w : Watching) (path : String) : Incident → Prop
  | .change c _ => c.Spares w.files path
  | .handle => True

instance (w : Watching) (place : Place) : DecidablePred (w.Touches place)
  | .change c _ => inferInstanceAs (Decidable (place ∈ c.touched w.files))
  | .handle => inferInstanceAs (Decidable False)

instance (w : Watching) (path : String) : DecidablePred (w.Spares path)
  | .change c _ => inferInstanceAs (Decidable (c.Spares w.files path))
  | .handle => inferInstanceAs (Decidable True)

variable {targets} {w : Watching} {incidents : List Incident}

theorem next_handle_nil (hpending : w.pending = []) : w.next targets .handle = w := by
  simp only [next, hpending]

/-- The first event that waits is handled by the commands that it concerns. -/
theorem next_handle_cons {paths : List String} {rest : List (List String)}
    (hpending : w.pending = paths :: rest) :
    w.next targets .handle
      = { w with
          pending := rest
          host := (refreshEach w.files (affected targets paths) w.host).value.2 } := by
  simp only [next, hpending]

@[simp] theorem files_next_handle : (w.next targets .handle).files = w.files := by
  cases hpending : w.pending with
  | nil => rw [next_handle_nil hpending]
  | cons paths rest => rw [next_handle_cons hpending]

@[simp] theorem watched_next_handle : (w.next targets .handle).watched = w.watched := by
  cases hpending : w.pending with
  | nil => rw [next_handle_nil hpending]
  | cons paths rest => rw [next_handle_cons hpending]

/-- A watcher that started watches every directory where it is, with no
event waiting. -/
theorem of_start {files : FileSystem} {config : Config} {h : Host}
    (hstart : start files config h = .ok w) :
    ∃ directories, watchedDirectories files (watchTargets files config) = .ok directories
      ∧ w = ⟨files, (firsts (directories.map (·.2))).map fun place => ⟨place, place⟩, [], h⟩ := by
  unfold start at hstart
  cases hdirectories : watchedDirectories files (watchTargets files config) with
  | error e =>
      rw [hdirectories] at hstart
      cases hstart
  | ok directories =>
      rw [hdirectories] at hstart
      injection hstart with hw
      exact ⟨directories, rfl, hw.symm⟩

section

variable {files : FileSystem} {config : Config} {h : Host} (hstart : start files config h = .ok w)

include hstart

theorem files_of_start : w.files = files := by
  obtain ⟨directories, -, rfl⟩ := of_start hstart
  rfl

theorem pending_of_start : w.pending = [] := by
  obtain ⟨directories, -, rfl⟩ := of_start hstart
  rfl

theorem host_of_start : w.host = h := by
  obtain ⟨directories, -, rfl⟩ := of_start hstart
  rfl

end

-- ============================================================= inductions

/-- What every incident of a run preserves holds at its end. -/
theorem run_induction (incidents : List Incident) {P : Watching → Prop} (hw : P w)
    (hnext : ∀ x ∈ w.history targets incidents, P x.1 → P (x.1.next targets x.2)) :
    P (w.run targets incidents) := by
  induction incidents generalizing w with
  | nil => exact hw
  | cons i rest ih =>
      exact ih (hnext (w, i) List.mem_cons_self hw) fun x hx => hnext x (List.mem_cons_of_mem _ hx)

/-- So does what one incident of the run brings about, and every later one
preserves. -/
theorem run_of_mem {P Q : Watching → Prop} (hw : P w)
    (hnext : ∀ x ∈ w.history targets incidents, P x.1 → P (x.1.next targets x.2))
    (hkept : ∀ x ∈ w.history targets incidents, P x.1 → Q x.1 → Q (x.1.next targets x.2))
    (hbegun : ∃ x ∈ w.history targets incidents, P x.1 → Q (x.1.next targets x.2)) :
    Q (w.run targets incidents) := by
  induction incidents generalizing w with
  | nil =>
      obtain ⟨x, hx, -⟩ := hbegun
      cases hx
  | cons i rest ih =>
      have hrest : P (w.next targets i) := hnext (w, i) List.mem_cons_self hw
      have hlater {R : Watching × Incident → Prop} (h : ∀ x ∈ w.history targets (i :: rest), R x) :
          ∀ x ∈ (w.next targets i).history targets rest, R x :=
        fun x hx => h x (List.mem_cons_of_mem _ hx)
      obtain ⟨x, hx, hbegun⟩ := hbegun
      rcases List.mem_cons.mp hx with rfl | hx
      · refine (run_induction rest (P := fun v => P v ∧ Q v) ⟨hrest, hbegun hw⟩ ?_).2
        exact fun x hx ⟨hP, hQ⟩ => ⟨hlater hnext x hx hP, hlater hkept x hx hP hQ⟩
      · exact ih hrest (hlater hnext) (hlater hkept) ⟨x, hx, hbegun⟩

-- ================================================ the program's own runs

theorem run_append (w : Watching) (l m : List Incident) :
    w.run targets (l ++ m) = (w.run targets l).run targets m := by
  induction l generalizing w with
  | nil => rfl
  | cons i rest ih => exact ih (w.next targets i)

theorem history_append (w : Watching) (l m : List Incident) :
    w.history targets (l ++ m)
      = w.history targets l ++ (w.run targets l).history targets m := by
  induction l generalizing w with
  | nil => rfl
  | cons i rest ih => exact congrArg ((w, i) :: ·) (ih (w.next targets i))

/-- The events of a change: one for each place that it touches. -/
def eventsOf (w : Watching) (c : Change) : List (List String) :=
  (c.touched w.files).map fun place => (w.watched.filterMap (·.report? place)).map Place.path

/-- A change, with all its events handled at once. -/
def prompt (w : Watching) (c : Change) : List Incident :=
  .change c (w.eventsOf c) :: (w.eventsOf c).map fun _ => .handle

/-- Changes one after the other, each with all its events handled at once. -/
def promptly (targets : List WatchTarget) (w : Watching) : List Change → List Incident
  | [] => []
  | c :: rest => w.prompt c ++ promptly targets (w.run targets (w.prompt c)) rest

/-- Commands of two rows run one row after the other. -/
theorem refreshEach_append (files : FileSystem) (l m : List String) (h : Host) :
    (refreshEach files (l ++ m) h).value.2
      = (refreshEach files m (refreshEach files l h).value.2).value.2 := by
  induction l generalizing h with
  | nil => rfl
  | cons identifier rest ih => exact ih (refreshChanged files identifier h).value.2

/-- Handling all events that wait runs the commands that they concern. -/
theorem run_handles {α : Type} (events : List α) (paths : α → List String)
    (hpending : w.pending = events.map paths) :
    w.run targets (events.map fun _ => .handle)
      = { w with
          pending := []
          host := (refreshEach w.files (events.flatMap fun e => affected targets (paths e))
            w.host).value.2 } := by
  induction events generalizing w with
  | nil =>
      obtain ⟨files, watched, pending, host⟩ := w
      exact congrArg (fun waiting => (⟨files, watched, waiting, host⟩ : Watching)) hpending
  | cons e rest ih =>
      have hnext : w.next targets .handle
          = { w with
              pending := rest.map paths
              host := (refreshEach w.files (affected targets (paths e)) w.host).value.2 } :=
        next_handle_cons hpending
      show (w.next targets .handle).run targets (rest.map fun _ => .handle) = _
      rw [ih (by rw [hnext]), hnext, List.flatMap_cons, refreshEach_append]

/-- A change with all its events handled at once is a step of the program:
the change is made, and the commands that it concerns run. -/
theorem run_prompt (targets : List WatchTarget) (hpending : w.pending = []) (c : Change) :
    w.run targets (w.prompt c)
      = ⟨c.apply w.files, w.watched.filterMap (·.after w.files c), [],
          (refreshEach (c.apply w.files) (concerned targets w.watched w.files c)
            w.host).value.2⟩ := by
  show (w.next targets (.change c (w.eventsOf c))).run targets
    ((w.eventsOf c).map fun _ => .handle) = _
  rw [run_handles (w.eventsOf c) id (by simp [next, hpending])]
  simp [next, concerned, eventsOf, List.flatMap_map]

/-- Changes one after the other, each handled at once, are a run, and no
event waits at its end. -/
theorem watchChanges_eq_run (targets : List WatchTarget) (changes : List Change)
    (hpending : w.pending = []) :
    (watchChanges targets changes w.watched w.files w.host).value.2
        = ((w.run targets (w.promptly targets changes)).files,
            (w.run targets (w.promptly targets changes)).host)
      ∧ (w.run targets (w.promptly targets changes)).pending = [] := by
  induction changes generalizing w with
  | nil => exact ⟨rfl, hpending⟩
  | cons c rest ih =>
      have hfirst := run_prompt targets hpending c
      obtain ⟨hvalue, hdone⟩ := ih (w := w.run targets (w.prompt c)) (by rw [hfirst])
      rw [promptly, run_append]
      refine ⟨?_, hdone⟩
      rw [← hvalue, hfirst]
      rfl

/-- Handling leaves nothing to report. -/
theorem reported_handles {α : Type} (events : List α) :
    ∀ x ∈ w.history targets (events.map fun _ => .handle), x.1.Reported x.2 := by
  induction events generalizing w with
  | nil => nofun
  | cons e rest ih =>
      refine fun x hx => (List.mem_cons.mp hx).elim ?_ (ih x)
      rintro rfl
      trivial

/-- Nothing that is touched goes unreported. -/
theorem reported_promptly (w : Watching) (targets : List WatchTarget) (changes : List Change) :
    ∀ x ∈ w.history targets (w.promptly targets changes), x.1.Reported x.2 := by
  induction changes generalizing w with
  | nil => nofun
  | cons c rest ih =>
      rw [promptly, history_append]
      refine fun x hx => (List.mem_append.mp hx).elim (fun hfirst => ?_) (ih _ x)
      rcases List.mem_cons.mp hfirst with rfl | hhandle
      · intro place hplace name hname
        exact ⟨_, List.mem_map.mpr ⟨place, hplace, rfl⟩, List.mem_map.mpr ⟨name, hname, rfl⟩⟩
      · exact reported_handles _ x hhandle

/-- The watcher of the program, with no event waiting in the end. -/
theorem watch_eq_run {files : FileSystem} {config : Config} {h : Host}
    (hstart : start files config h = .ok w) (changes : List Change) :
    let targets := watchTargets files config
    let final := w.run targets (w.promptly targets changes)
    final.pending = []
      ∧ ∃ responses,
        (watch config changes files h).value = (.ok responses, final.files, final.host) := by
  intro targets final
  obtain ⟨directories, hdirectories, rfl⟩ := of_start hstart
  obtain ⟨hvalue, hdone⟩ := watchChanges_eq_run targets
    (w := ⟨files, (firsts (directories.map (·.2))).map fun place => ⟨place, place⟩, [], h⟩)
    changes rfl
  refine ⟨hdone, (watchChanges targets changes
    ((firsts (directories.map (·.2))).map fun place => ⟨place, place⟩) files h).value.1, ?_⟩
  simp only [watch, hdirectories]
  exact congrArg (Prod.mk _) hvalue

end Watching

end Warden
