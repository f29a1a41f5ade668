/-
Why the watcher converges.

# Contents

A dataset is `Current` if what is published of it is what its file has,
should the file have anything. As long as an event that names the file
waits, nothing is claimed of it; when the last of them is handled, it
becomes current (`settled_refreshEach`), and what happens without another
event can only take the file away (`Keeps.readText_of_apply`). Both
together are what one incident preserves (`dueOrCurrent_change`,
`dueOrCurrent_handle`), along a way that every incident spares; that it
begins is what a start gives (`found_of_start`).

Only the directory of a file itself is watched. Where the path of the
file also passes another one, that one can be gone when the event is
handled, and its return is no event (`watcher_waits_for_no_passed_directory`).
-/
import Warden.Proofs.Host.Forgetting
import Warden.Proofs.Host.Reloading
import Warden.Proofs.Watch.Changes
import Warden.Proofs.Watch.Events

namespace Warden

open Text Warden.Path
open Service (SameIn SameBut)

-- ================================================== a row of refreshes

namespace Service

variable {files : FileSystem} {config : Config} {s t : Service}

/-- What is known of a service after a row of refresh commands of its
policies: a policy that was not named is as it was, and a dataset of one
that was holds what its file has. -/
structure Settled (files : FileSystem) (config : Config) (identifiers : List String)
    (s t : Service) : Prop where
  source : t.source = s.source
  unnamed : ∀ p : Policy, p.identifier ∉ identifiers → SameIn p t s
  named : ∀ (d : Dataset) (text : String), d.policy.identifier ∈ identifiers →
    d.attempt? files config = some (.ok text) → t.Holds text d

/-- The step of the induction: a refresh command before a row of others. -/
theorem Settled.cons {q : Policy} {identifiers : List String}
    (h : Settled files config identifiers (s.reload files config q).value.2 t) :
    Settled files config (q.identifier :: identifiers) s t := by
  have hframe : SameBut q s (s.reload files config q).value.2 := sameBut_reload files config s q
  refine ⟨h.source.trans hframe.source, fun p hp => ?_, fun d text hd hload => ?_⟩
  · obtain ⟨hne, hrest⟩ := not_or.mp (mt List.mem_cons.mpr hp)
    have hother : q ≠ p := fun heq => hne (congrArg Policy.identifier heq.symm)
    exact (h.unnamed p hrest).trans (hframe.sameIn hother)
  · by_cases hrest : d.policy.identifier ∈ identifiers
    · exact h.named d text hrest hload
    · have hq : q = d.policy :=
        (Policy.identifier_inj.mp ((List.mem_cons.mp hd).resolve_right hrest)).symm
      subst hq
      exact (h.unnamed _ hrest).holds (holds_reload files config s hload)

end Service

namespace Host

variable {files : FileSystem} {config : Config} {number : Nat}

/-- The induction over a row of refresh commands. -/
theorem settled_refreshEach :
    ∀ {identifiers : List String} {h : Host} {s : Service},
      (∀ identifier ∈ identifiers, ∃ p : Policy, identifier = p.identifier) →
      (∀ p, h.Serves number s p) → s.source.load files = .ok config →
      ∃ t, (∀ p, (refreshEach files identifiers h).value.2.Serves number t p)
        ∧ Service.Settled files config identifiers s t := by
  intro identifiers
  induction identifiers with
  | nil =>
      intro h s _ hserves _
      exact ⟨s, hserves, rfl, fun p _ => SameIn.refl p s, fun d text hd => by cases hd⟩
  | cons identifier rest ih =>
      intro h s hpolicies hserves hload
      obtain ⟨q, rfl⟩ := hpolicies identifier List.mem_cons_self
      let s' := (s.reload files config q).value.2
      have hfirst : (refreshChanged files q.identifier h).value.2 = h.withService number s' := by
        show (h.dispatch files q.identifier []).value.2 = _
        rw [dispatch_of_serves files [] (hserves q),
          Service.value_refresh_of_load_eq_ok files hload]
      have hsource : s'.source = s.source := (Service.sameBut_reload files config s q).source
      obtain ⟨t, hserved, hrest⟩ := ih (fun i hi => hpolicies i (List.mem_cons_of_mem _ hi))
        (fun p => (hserves p).withService s') (hsource ▸ hload)
      refine ⟨t, fun p => ?_, hrest.cons⟩
      show (refreshEach files rest (refreshChanged files q.identifier h).value.2).value.2.Serves
        number t p
      rw [hfirst]
      exact hserved p

end Host

/-- What a changed file concerns are policies of the service. -/
theorem policy_of_mem_affected {files : FileSystem} {config : Config} {paths : List String}
    {identifier : String} (h : identifier ∈ affected (watchTargets files config) paths) :
    ∃ p : Policy, identifier = p.identifier := by
  obtain ⟨-, -, t, ht, -, rfl⟩ := mem_affected.mp h
  obtain ⟨d, -, -, -, rfl⟩ := mem_watchTargets.mp ht
  exact ⟨d.policy, rfl⟩

-- ============================================================ one dataset

namespace Watched

/-- A directory that nothing is put in place of is still watched. -/
theorem after_of_spares {files : FileSystem} {path : String} {place : Place} {c : Change}
    (hspares : c.Spares files path) (hplace : place ∈ files.lookups path) :
    after files c ⟨place, place⟩ = some ⟨place, place⟩ := by
  have hfree (p : Place) (hp : p ∈ c.replaced files) : ¬ p <+: place :=
    hspares.way p hp place hplace
  cases c with
  | rename path dest =>
      simp only [after]
      split
      case isTrue => rfl
      case isFalse hidle =>
        simp only [Change.replaced, if_neg hidle, List.mem_cons, List.not_mem_nil, or_false,
          forall_eq_or_imp, forall_eq] at hfree
        rw [if_neg hfree.1, if_neg hfree.2]
  | remove path | replace path bytes => exact if_neg (hfree _ (List.mem_singleton_self _))
  | write | makeDirectory | makeLink | addName | read => rfl

/-- What happens to an entry is reported as such. -/
theorem report?_entry (place : Place) (name : String) :
    (⟨place, place⟩ : Watched).report? (place ++ [name]) = some (place ++ [name]) := by
  simp [report?]

end Watched

/-- A dataset can be loaded if it is in use, its file is read, and a fixed
list has a record. -/
theorem Dataset.attempt?_eq_ok_iff {files : FileSystem} {config : Config} {d : Dataset}
    {path text : String} (hfile : d.file? config = some path) :
    d.attempt? files config = some (.ok text)
      ↔ d.isOn config = true ∧ path ≠ "" ∧ files.readText path = .ok text
        ∧ (d = .fixedWhitelist → (scan d.layout text).records ≠ []) := by
  have hsource : d.source files (d.file? config) = .ok text
      ↔ path ≠ "" ∧ files.readText path = .ok text
        ∧ (d = .fixedWhitelist → (scan d.layout text).records ≠ []) := by
    rw [Dataset.source_eq_ok_iff, hfile]
    simp [FileSystem.Supplies, and_assoc]
  cases hon : d.isOn config with
  | false => simp [Dataset.attempt?, hon]
  | true => simp [Dataset.attempt?, hon, hsource]

namespace Watching

variable {files : FileSystem} {config : Config} {number : Nat} {source : ConfigSource}
  {d : Dataset} {path name : String} {place : Place} {w : Watching} {i : Incident}

/-- The directory of a path is watched where it was at the start, the way
to it is as it was, and a service from a source serves its policies. -/
structure Follows (files : FileSystem) (number : Nat) (source : ConfigSource) (path : String)
    (place : Place) (w : Watching) : Prop where
  keeps : files.Keeps w.files (front path)
  watched : ⟨place, place⟩ ∈ w.watched
  serves : ∃ t : Service, t.source = source ∧ ∀ p, w.host.Serves number t p

/-- An event that names an entry waits. -/
def Due (entry : Place) (w : Watching) : Prop := ∃ paths ∈ w.pending, entry.path ∈ paths

/-- What is published of a dataset is what its file has, if it is loaded
from its own entry at all, and from no other place that a link leads to. -/
def Current (config : Config) (number : Nat) (d : Dataset) (entry : Place) (w : Watching) : Prop :=
  w.files.link? entry = none → ∀ (text : String) (t : Service),
    d.attempt? w.files config = some (.ok text) → w.host.service? number = some t → t.Holds text d

/-- The handling of an event, as the service sees it. -/
theorem settled_handle (files : FileSystem) {s : Service} {paths : List String}
    {rest : List (List String)} (hpending : w.pending = paths :: rest)
    (hserves : ∀ p, w.host.Serves number s p) (hload : s.source.load w.files = .ok config) :
    ∃ t, (∀ p, (w.next (watchTargets files config) .handle).host.Serves number t p)
      ∧ Service.Settled w.files config (affected (watchTargets files config) paths) s t := by
  rw [next_handle_cons hpending]
  exact Host.settled_refreshEach (fun _ => policy_of_mem_affected) hserves hload

/-- Every incident leaves a service that serves its policies by its source. -/
theorem serves_next (hserves : ∃ t : Service, t.source = source ∧ ∀ p, w.host.Serves number t p)
    (hload : source.load w.files = .ok config) :
    ∃ t : Service, t.source = source
      ∧ ∀ p, (w.next (watchTargets files config) i).host.Serves number t p := by
  obtain ⟨s, rfl, hserves⟩ := hserves
  cases i with
  | change c events => exact ⟨s, rfl, hserves⟩
  | handle =>
      cases hpending : w.pending with
      | nil => exact ⟨s, rfl, (next_handle_nil hpending).symm ▸ hserves⟩
      | cons paths rest =>
          obtain ⟨t, hserved, hsettled⟩ :=
            settled_handle files hpending hserves hload
          exact ⟨t, hsettled.source, hserved⟩

section

variable (htree : files.IsTree) (hfinds : files.Finds (front path) place)

include htree hfinds

/-- An incident that spares a path keeps the way to it. -/
theorem keeps_next {targets : List WatchTarget} (hkeeps : files.Keeps w.files (front path))
    (hspares : w.Spares path i) : files.Keeps (w.next targets i).files (front path) := by
  cases i with
  | change c events => exact hkeeps.apply htree hfinds hspares
  | handle => exact files_next_handle.symm ▸ hkeeps

/-- An incident that spares the path keeps all that its dataset is followed
by. -/
theorem Follows.next (hfollows : Follows files number source path place w)
    (hspares : w.Spares path i) (hload : source.load w.files = .ok config) :
    Follows files number source path place (w.next (watchTargets files config) i) where
  keeps := keeps_next htree hfinds hfollows.keeps hspares
  serves := serves_next hfollows.serves hload
  watched := by
    cases i with
    | change c events =>
        have hpassed : place ∈ w.files.lookups path :=
          (hfollows.keeps.finds_front htree hfinds).mem_passed
        have hkept : Watched.after w.files c ⟨place, place⟩ = some ⟨place, place⟩ :=
          Watched.after_of_spares hspares hpassed
        exact List.mem_filterMap.mpr ⟨_, hfollows.watched, hkept⟩
    | handle => exact watched_next_handle.symm ▸ hfollows.watched

end

/-- A change that touches an entry of a watched directory has an event. -/
theorem due_next {targets : List WatchTarget}
    (hfollows : Follows files number source path place w)
    (hreported : w.Reported i) (htouches : w.Touches (place ++ [name]) i) :
    Due (place ++ [name]) (w.next targets i) := by
  cases i with
  | handle => cases htouches
  | change c events =>
      have hname : (place ++ [name] : Place)
          ∈ w.watched.filterMap (·.report? (place ++ [name])) :=
        List.mem_filterMap.mpr ⟨_, hfollows.watched, Watched.report?_entry place name⟩
      obtain ⟨paths, hpaths, hmem⟩ := hreported _ htouches _ hname
      exact ⟨paths, List.mem_append_right _ hpaths, hmem⟩

/-- A dataset is current by the service that is at work. -/
theorem current_iff {t : Service} {entry : Place} (hserves : ∀ p, w.host.Serves number t p) :
    Current config number d entry w
      ↔ (w.files.link? entry = none →
          ∀ text, d.attempt? w.files config = some (.ok text) → t.Holds text d) := by
  constructor
  · intro hcurrent hplain text hattempt
    exact hcurrent hplain text t hattempt (hserves .groups).service
  · intro hholds hplain text t' hattempt ht'
    rw [(hserves .groups).service] at ht'
    injection ht' with ht'
    exact ht' ▸ hholds hplain text hattempt

/-- What a change preserves: an event that names the file waits, or the
dataset is as its file. -/
theorem dueOrCurrent_change (htree : files.IsTree) (hfinds : files.Finds (front path) place)
    {c : Change} {events : List (List String)}
    (hfollows : Follows files number source path place w) (hname : name? path = some name)
    (hfile : d.file? config = some path)
    (hspares : c.Spares w.files path) (hreported : w.Reported (.change c events))
    (h : Due (place ++ [name]) w ∨ Current config number d (place ++ [name]) w) :
    Due (place ++ [name]) (w.next (watchTargets files config) (.change c events))
      ∨ Current config number d (place ++ [name])
          (w.next (watchTargets files config) (.change c events)) := by
  by_cases htouches : w.Touches (place ++ [name]) (.change c events)
  case pos => exact .inl (due_next hfollows hreported htouches)
  case neg =>
    refine h.imp ?_ ?_
    · rintro ⟨paths, hpaths, hmem⟩
      exact ⟨paths, List.mem_append_left _ hpaths, hmem⟩
    · intro hcurrent hplain text t hattempt ht
      obtain ⟨hon, hne, hread, hrecords⟩ := (Dataset.attempt?_eq_ok_iff hfile).mp hattempt
      obtain ⟨hbefore, hkept⟩ := hfollows.keeps.readText_of_apply htree hfinds hspares hname
        htouches hplain hread
      exact hcurrent hbefore text t
        ((Dataset.attempt?_eq_ok_iff hfile).mpr ⟨hon, hne, hkept, hrecords⟩) ht

/-- What the handling of an event preserves: another event that names the
file waits, or the dataset is as its file. -/
theorem dueOrCurrent_handle (hfollows : Follows files number source path place w)
    (hwatched : (⟨Place.path (place ++ [name]), d.policy.identifier⟩ : WatchTarget)
      ∈ watchTargets files config)
    (hload : source.load w.files = .ok config)
    (h : Due (place ++ [name]) w ∨ Current config number d (place ++ [name]) w) :
    Due (place ++ [name]) (w.next (watchTargets files config) .handle)
      ∨ Current config number d (place ++ [name])
          (w.next (watchTargets files config) .handle) := by
  cases hpending : w.pending with
  | nil => exact (next_handle_nil hpending).symm ▸ h
  | cons paths rest =>
      obtain ⟨s, rfl, hserves⟩ := hfollows.serves
      obtain ⟨t, hserved, hsettled⟩ := settled_handle files hpending hserves hload
      rw [current_iff hserved, files_next_handle]
      by_cases hd : d.policy.identifier ∈ affected (watchTargets files config) paths
      case pos => exact .inr fun _ text => hsettled.named d text hd
      case neg =>
        rcases h with ⟨paths', hpaths', hmem⟩ | hcurrent
        · left
          rw [hpending] at hpaths'
          have hlater : paths' ∈ rest := by
            refine (List.mem_cons.mp hpaths').resolve_left ?_
            rintro rfl
            exact hd (mem_affected.mpr ⟨_, hmem, _, hwatched, same_iff.mpr rfl, rfl⟩)
          rw [next_handle_cons hpending]
          exact ⟨paths', hlater, hmem⟩
        · right
          intro hplain text hattempt
          have hs : s.Holds text d := (current_iff hserves).mp hcurrent hplain text hattempt
          exact (hsettled.unnamed _ hd).holds hs

end Watching

-- =============================================================== the start

/-- A service that was started from one configuration, on a host of its
own, serves all its policies, and its source gives nothing else. -/
theorem Host.serves_start_fixed (files : FileSystem) {config : Config} {algorithm : Algorithm}
    (hname : Algorithm.ofName? config.password.digestAlgorithm = .ok algorithm) {s : Service}
    (hs : s = ((Service.new (.fixed config) algorithm).initialLoad files config).value) :
    (∀ p, (Host.new.start files (.fixed config)).value.2.Serves 0 s p)
      ∧ ∀ others, s.source.load others = .ok config := by
  have hcreate : (Service.create files (.fixed config)).value = .ok s :=
    (Service.create_eq_ok_iff files).mpr ⟨config, algorithm, rfl, hname, hs⟩
  have hsource : s.source = .fixed config := hs ▸ Service.source_initialLoad files config _
  refine ⟨fun p => Host.serves_start hcreate Host.new p, fun others => ?_⟩
  rw [hsource]
  rfl

/-- Where all succeed, each gave one of the results. -/
theorem mem_of_mapM_eq_ok {α β ε : Type} {f : α → Except ε β} :
    ∀ {l : List α} {r : List β}, l.mapM f = .ok r → ∀ a ∈ l, ∃ b ∈ r, f a = .ok b := by
  intro l
  induction l with
  | nil => nofun
  | cons first rest ih =>
      intro r h a ha
      rw [List.mapM_cons] at h
      cases hfirst : f first with
      | error e =>
          rw [hfirst] at h
          cases h
      | ok b =>
          cases hrest : rest.mapM f with
          | error e =>
              rw [hfirst, hrest] at h
              cases h
          | ok others =>
              rw [hfirst, hrest] at h
              injection h with h
              subst h
              rcases List.mem_cons.mp ha with rfl | ha
              · exact ⟨b, List.mem_cons_self, hfirst⟩
              · obtain ⟨b', hb', hfa⟩ := ih hrest a ha
                exact ⟨b', List.mem_cons_of_mem _ hb', hfa⟩

/-- Every directory of a target is found when they are watched. -/
theorem canonical_of_watchedDirectories {files : FileSystem} {targets : List WatchTarget}
    {directories : List (List Step × Place)} {t : WatchTarget} {directory : List Step}
    (h : watchedDirectories files targets = .ok directories) (ht : t ∈ targets)
    (hparent : parent? t.path = some directory) :
    ∃ place, files.canonical directory = .ok place ∧ place ∈ directories.map (·.2) := by
  have hmem : directory ∈ firsts (targets.filterMap fun t => parent? t.path) :=
    mem_firsts.mpr (List.mem_filterMap.mpr ⟨t, ht, hparent⟩)
  obtain ⟨found, hfound, hok⟩ := mem_of_mapM_eq_ok h directory hmem
  cases hdirectory : files.canonical directory with
  | error e =>
      simp only [hdirectory] at hok
      cases hok
  | ok place =>
      simp only [hdirectory] at hok
      split at hok
      case isFalse => cases hok
      case isTrue =>
        injection hok with hok
        exact ⟨place, rfl, List.mem_map.mpr ⟨found, hfound, hok ▸ rfl⟩⟩

namespace Watching

variable {files : FileSystem} {config : Config} {h : Host} {d : Dataset} {path : String}
  {w : Watching}

/-- Where the watcher started, the directory of every configured path was
there; if the path ends in a name, it is watched. -/
theorem found_of_start (htree : files.IsTree) (hstart : start files config h = .ok w)
    (hfile : d.file? config = some path) (hpath : path ≠ "") {directory : List Step}
    (hparent : parent? path = some directory) :
    ∃ place, files.canonical directory = .ok place
      ∧ ∀ name, name? path = some name → ⟨place, place⟩ ∈ w.watched := by
  obtain ⟨directories, hdirectories, rfl⟩ := of_start hstart
  have ht : (⟨files.absolute path, d.policy.identifier⟩ : WatchTarget)
      ∈ watchTargets files config := mem_watchTargets.mpr ⟨d, path, hfile, hpath, rfl⟩
  cases hdirectory : files.canonical directory with
  | error e =>
      have hwritten := FileSystem.absolute_of_canonical_eq_error hparent hdirectory
      obtain ⟨place, hplace, -⟩ :=
        canonical_of_watchedDirectories hdirectories ht (hwritten.symm ▸ hparent)
      rw [hdirectory] at hplace
      cases hplace
  | ok place =>
      refine ⟨place, rfl, fun name hname => ?_⟩
      obtain ⟨before, hbefore, hcomponents⟩ := components_of_name? hname
      obtain rfl : directory = before := Option.some.inj (hparent.symm.trans hbefore)
      have habsolute := FileSystem.components_absolute htree hcomponents hdirectory
      obtain ⟨found, hfound, hmem⟩ := canonical_of_watchedDirectories hdirectories ht
        (name?_of_components habsolute).2
      have hfinds : files.Finds directory place := FileSystem.finds_of_canonical_eq_ok hdirectory
      rw [htree.canonical_path hfinds.there (htree.link?_of_finds hfinds)] at hfound
      injection hfound with hfound
      subst hfound
      exact List.mem_map.mpr ⟨place, mem_firsts.mpr hmem, rfl⟩

-- ============================================================= convergence

variable {number : Nat} {s : Service} {incidents : List Incident}

/-- A dataset whose file was touched is as its file in the end. -/
theorem current_run (htree : files.IsTree) (hserves : ∀ p, h.Serves number s p)
    (hstart : start files config h = .ok w) (hfile : d.file? config = some path)
    (hsteady : ∀ x ∈ w.history (watchTargets files config) incidents,
      s.source.load x.1.files = .ok config)
    (hreported : ∀ x ∈ w.history (watchTargets files config) incidents, x.1.Reported x.2)
    (hspares : ∀ x ∈ w.history (watchTargets files config) incidents, x.1.Spares path x.2)
    (htouches : ∃ x ∈ w.history (watchTargets files config) incidents,
      x.1.Touches (files.entry path) x.2)
    (hpending : (w.run (watchTargets files config) incidents).pending = []) :
    Current config number d (files.entry path)
      (w.run (watchTargets files config) incidents) := by
  intro hplain text t hattempt
  obtain ⟨hpath, hread⟩ : path ≠ "" ∧
      (w.run (watchTargets files config) incidents).files.readText path = .ok text := by
    obtain ⟨-, hne, hread, -⟩ := (Dataset.attempt?_eq_ok_iff hfile).mp hattempt
    exact ⟨hne, hread⟩
  obtain ⟨directory, last, hcomponents, hroot, hhere⟩ :=
    FileSystem.exists_components_of_readText hread
  obtain ⟨hparent, rfl⟩ := parent?_of_components hcomponents hroot
  obtain ⟨place, hplace, hwatched⟩ := found_of_start htree hstart hfile hpath hparent
  have hfinds : files.Finds (front path) place := FileSystem.finds_of_canonical_eq_ok hplace
  have hbegun : files.Keeps w.files (front path) := (files_of_start hstart).symm ▸ .refl files _
  have hkeeps : files.Keeps (w.run (watchTargets files config) incidents).files (front path) :=
    run_induction incidents (P := fun v => files.Keeps v.files (front path)) hbegun
      fun x hx hkeeps => keeps_next htree hfinds hkeeps (hspares x hx)
  obtain ⟨name, rfl⟩ := hkeeps.exists_name_of_readText htree (root_notMem_tail_front path) hfinds
    hcomponents hroot hhere hread
  have hname : name? path = some name := (name?_of_components hcomponents).1
  have hentry : files.entry path = place ++ [name] := hfinds.entry_eq hcomponents
  rw [hentry] at hplain htouches
  have htargets : (⟨Place.path (place ++ [name]), d.policy.identifier⟩ : WatchTarget)
      ∈ watchTargets files config := by
    refine mem_watchTargets.mpr ⟨d, path, hfile, hpath, ?_⟩
    rw [FileSystem.absolute_of_canonical hcomponents hplace]
  have hfollows : Follows files number s.source path place w := by
    refine ⟨hbegun, hwatched name hname, ⟨s, rfl, ?_⟩⟩
    exact (host_of_start hstart).symm ▸ hserves
  have hdone : Due (place ++ [name]) (w.run (watchTargets files config) incidents)
      ∨ Current config number d (place ++ [name])
          (w.run (watchTargets files config) incidents) := by
    refine run_of_mem (P := Follows files number s.source path place)
      (Q := fun v => Due (place ++ [name]) v ∨ Current config number d (place ++ [name]) v) hfollows
      (fun x hx hfollows => hfollows.next htree hfinds (hspares x hx) (hsteady x hx))
      (fun x hx hfollows hdue => ?_) ?_
    · obtain ⟨v, i⟩ := x
      cases i with
      | change c events =>
          exact dueOrCurrent_change htree hfinds hfollows hname hfile (hspares _ hx)
            (hreported _ hx) hdue
      | handle => exact dueOrCurrent_handle hfollows htargets (hsteady _ hx) hdue
    · obtain ⟨x, hx, htouched⟩ := htouches
      exact ⟨x, hx, fun hfollows => .inl (due_next hfollows (hreported x hx) htouched)⟩
  rcases hdone with ⟨paths, hpaths, -⟩ | hcurrent
  · rw [hpending] at hpaths
    cases hpaths
  · exact hcurrent hplain text t hattempt

/-- A policy of which no event names a file is as it was. -/
theorem sameIn_run (p : Policy) (hserves : ∀ p, h.Serves number s p)
    (hstart : start files config h = .ok w)
    (hsteady : ∀ x ∈ w.history (watchTargets files config) incidents,
      s.source.load x.1.files = .ok config)
    (hunnamed : ∀ x ∈ w.history (watchTargets files config) incidents, ∀ paths ∈ x.2.events,
      p.identifier ∉ affected (watchTargets files config) paths) :
    ∃ t, t.source = s.source
      ∧ (∀ q, (w.run (watchTargets files config) incidents).host.Serves number t q)
      ∧ SameIn p t s := by
  -- Nor does an event that waits name one.
  refine (run_induction incidents (P := fun v =>
    (∀ paths ∈ v.pending, p.identifier ∉ affected (watchTargets files config) paths)
      ∧ ∃ t, t.source = s.source ∧ (∀ q, v.host.Serves number t q) ∧ SameIn p t s) ?_ ?_).2
  · refine ⟨fun paths hpaths => ?_, s, rfl, (host_of_start hstart).symm ▸ hserves, SameIn.refl p s⟩
    rw [pending_of_start hstart] at hpaths
    cases hpaths
  · rintro ⟨v, i⟩ hx ⟨hwaiting, t, hsource, hserved, hsame⟩
    cases i with
    | change c events =>
        refine ⟨fun paths hpaths => ?_, t, hsource, hserved, hsame⟩
        exact (List.mem_append.mp hpaths).elim (hwaiting paths) (hunnamed _ hx paths)
    | handle =>
        cases hpending : v.pending with
        | nil =>
            rw [next_handle_nil hpending]
            exact ⟨hwaiting, t, hsource, hserved, hsame⟩
        | cons paths rest =>
            rw [hpending] at hwaiting
            obtain ⟨t', hserved', hsettled⟩ := settled_handle files hpending hserved
              (hsource ▸ hsteady _ hx)
            refine ⟨fun later hlater => ?_, t', hsettled.source.trans hsource, hserved',
              (hsettled.unnamed p (hwaiting paths List.mem_cons_self)).trans hsame⟩
            rw [next_handle_cons hpending] at hlater
            exact hwaiting later (List.mem_cons_of_mem _ hlater)

end Watching

open Watching in
/-- A service from a source that keeps giving one configuration, with its
own handlers in place, and a watcher that started on the files of that
configuration. Changes of any kind are made, and the events of each that
reach a watched directory wait for a while and are handled in order.
When none waits any more: a dataset in use whose file was created,
written or renamed, and which can be loaded from it now, is published as
this file has it, if the directories and links that the name of its path
is looked up through, and the directories above them, were left in their
places, the file was not written under another name, and this name is not
that of a link in the end. A policy none of whose files any event named is
as it was. -/
theorem watcher_converges {files : FileSystem} (htree : files.IsTree) {config : Config} {h : Host}
    {number : Nat} {s : Service} (hserves : ∀ p, h.Serves number s p) {w : Watching}
    (hstart : start files config h = .ok w) (incidents : List Incident)
    (hsteady : ∀ x ∈ w.history (watchTargets files config) incidents,
      s.source.load x.1.files = .ok config)
    (hreported : ∀ x ∈ w.history (watchTargets files config) incidents, x.1.Reported x.2)
    (hpending : (w.run (watchTargets files config) incidents).pending = []) :
    let targets := watchTargets files config
    let final := w.run targets incidents
    ∃ t, (∀ p, final.host.Serves number t p)
      ∧ (∀ (d : Dataset) (path text : String), d.file? config = some path →
          (∃ x ∈ w.history targets incidents, x.1.Touches (files.entry path) x.2) →
          (∀ x ∈ w.history targets incidents, x.1.Spares path x.2) →
          final.files.link? (files.entry path) = none →
          d.isOn config = true → d.source final.files (some path) = .ok text → t.Holds text d)
      ∧ ∀ p : Policy, (∀ x ∈ w.history targets incidents, ∀ paths ∈ x.2.events, ∀ path ∈ paths,
            ∀ target ∈ targets, same target.path path = true → target.identifier ≠ p.identifier) →
          SameIn p t s := by
  intro targets final
  obtain ⟨t, -, hserved⟩ :
      ∃ t : Service, t.source = s.source ∧ ∀ p, final.host.Serves number t p := by
    refine run_induction incidents (P := fun v => ∃ t : Service, t.source = s.source
      ∧ ∀ p, v.host.Serves number t p) ?_ fun x hx hserves => serves_next hserves (hsteady x hx)
    exact ⟨s, rfl, (host_of_start hstart).symm ▸ hserves⟩
  refine ⟨t, hserved, ?_, ?_⟩
  · intro d path text hfile htouches hspares hplain hon hsource
    refine current_run htree hserves hstart hfile hsteady hreported hspares htouches hpending
      hplain text t ?_ (hserved .groups).service
    rw [Dataset.attempt?, if_pos hon, hfile]
    exact congrArg some hsource
  · intro p hunnamed
    obtain ⟨t', -, hserved', hsame⟩ := sameIn_run p hserves hstart hsteady
      (fun x hx paths hpaths hmem => by
        obtain ⟨path, hpath, target, htarget, hpaths', hidentifier⟩ := mem_affected.mp hmem
        exact hunnamed x hx paths hpaths path hpath target htarget hpaths' hidentifier)
    have heq := (hserved .groups).service.symm.trans (hserved' .groups).service
    injection heq with heq
    exact heq ▸ hsame

/-- A file that is configured by a path through a link, written by another
path, and then handled. -/
theorem watcher_converges_on_a_write :
    let files := (FileSystem.empty ["srv"]).makeLink "link" "/"
    let config : Config := { groups := { file := some "link/srv/g" } }
    let s := ((Service.new (.fixed config) .md5).initialLoad files config).value
    let h := (Host.new.start files (.fixed config)).value.2
    let targets := watchTargets files config
    let w : Watching := ⟨files, [⟨["srv"], ["srv"]⟩], [], h⟩
    let incidents := w.promptly targets [.write "g" (utf8 "ann=b\n")]
    let final := w.run targets incidents
    files.IsTree ∧ (∀ p, h.Serves 0 s p) ∧ Watching.start files config h = .ok w
      ∧ (∀ x ∈ w.history targets incidents, s.source.load x.1.files = .ok config)
      ∧ (∀ x ∈ w.history targets incidents, x.1.Reported x.2) ∧ final.pending = []
      ∧ ∃ t, (∀ p, final.host.Serves 0 t p) ∧ t.Holds "ann=b\n" .groups
        ∧ Service.SameIn .passwords t s := by
  intro files config s h targets w incidents final
  have htree : files.IsTree := FileSystem.isTree_makeLink_empty
  have hname : Algorithm.ofName? config.password.digestAlgorithm = .ok .md5 := by decide
  obtain ⟨hserves, hload⟩ := Host.serves_start_fixed (s := s) files hname rfl
  have hdirectories : watchedDirectories files targets
      = .ok [([.root, .into "srv"], ["srv"])] := by decide +kernel
  have hstart : Watching.start files config h = .ok w := by
    simp only [Watching.start]
    rw [hdirectories]
    rfl
  have hsteady : ∀ x ∈ w.history targets incidents, s.source.load x.1.files = .ok config :=
    fun x _ => hload x.1.files
  have hreported := w.reported_promptly targets
    [.write "g" (utf8 "ann=b\n")]
  have hpending := (Watching.watch_eq_run hstart [.write "g" (utf8 "ann=b\n")]).1
  obtain ⟨t, hserved, hholds, hsame⟩ :=
    watcher_converges htree hserves hstart incidents hsteady hreported hpending
  refine ⟨htree, hserves, hstart, hsteady, hreported, hpending, t, hserved, ?_, ?_⟩
  · exact hholds .groups "link/srv/g" "ann=b\n" rfl (by decide +kernel) (by decide +kernel)
      (by decide +kernel) rfl (by decide +kernel)
  · exact hsame .passwords (by decide +kernel)

/-- A service whose answers are not those of a text does not hold it. -/
theorem Service.not_holds_of_hasGroup {s : Service} {text : String} (user group : String)
    (hservice : s.groups.hasGroup user group = false)
    (htext : (⟨⟨Groups.rosterOf text⟩⟩ : Groups).hasGroup user group = true) :
    ¬ s.Holds text .groups := by
  intro hholds
  have hroster : s.groups.published.current = Groups.rosterOf text := hholds
  unfold Groups.hasGroup at hservice htext
  rw [hroster, htext] at hservice
  cases hservice

/-- The events of a file are handled while a directory that its path passes
is away. Its return is no event of the file, and the file is not read
again. -/
theorem watcher_waits_for_no_passed_directory :
    let files := ((FileSystem.empty []).makeDirectory "sub").write "g" (utf8 "ann=a\n")
    let config : Config := { groups := { file := some "sub/../g" } }
    let s := ((Service.new (.fixed config) .md5).initialLoad files config).value
    let h := (Host.new.start files (.fixed config)).value.2
    let targets := watchTargets files config
    let w : Watching := ⟨files, [⟨[], []⟩], [], h⟩
    let incidents := w.promptly targets
      [.rename "sub" "gone", .write "g" (utf8 "ann=b\n"), .rename "gone" "sub"]
    let final := w.run targets incidents
    (∀ p, h.Serves 0 s p) ∧ Watching.start files config h = .ok w
      ∧ (∀ x ∈ w.history targets incidents, s.source.load x.1.files = .ok config)
      ∧ (∀ x ∈ w.history targets incidents, x.1.Reported x.2) ∧ final.pending = []
      ∧ (∃ x ∈ w.history targets incidents, x.1.Touches (files.entry "sub/../g") x.2)
      ∧ Dataset.groups.source final.files (some "sub/../g") = .ok "ann=b\n"
      ∧ ¬ (final.host.serviceAt 0).Holds "ann=b\n" .groups := by
  intro files config s h targets w incidents final
  have hname : Algorithm.ofName? config.password.digestAlgorithm = .ok .md5 := by decide
  obtain ⟨hserves, hload⟩ := Host.serves_start_fixed (s := s) files hname rfl
  have hdirectories : watchedDirectories files targets = .ok [([.root], [])] := by decide +kernel
  have hstart : Watching.start files config h = .ok w := by
    simp only [Watching.start]
    rw [hdirectories]
    rfl
  have hsteady : ∀ x ∈ w.history targets incidents, s.source.load x.1.files = .ok config :=
    fun x _ => hload x.1.files
  refine ⟨hserves, hstart, hsteady, w.reported_promptly targets _,
    (Watching.watch_eq_run hstart _).1, by decide +kernel, by decide +kernel, ?_⟩
  exact Service.not_holds_of_hasGroup "ann" "b" (by decide +kernel) (by decide +kernel)

/-- Nor is the watcher told of a write to a file that is a link, for it
happens where the link leads. -/
example :
    let files := ((FileSystem.empty []).makeDirectory "store").makeLink "g" "store/g"
    let targets := watchTargets files { groups := { file := some "g" } }
    concerned targets [⟨[], []⟩] files (.write "g" (utf8 "ann=b\n")) = []
      ∧ (files.write "g" (utf8 "ann=b\n")).readText "g" = .ok "ann=b\n" := by
  decide +kernel

/-- Nor of a write under another name of the file. -/
example :
    let files := ((FileSystem.empty []).write "g" (utf8 "ann=a\n")).addName "g" "h"
    let targets := watchTargets files { groups := { file := some "g" } }
    concerned targets [⟨[], []⟩] files (.write "h" (utf8 "ann=b\n")) = []
      ∧ (files.write "h" (utf8 "ann=b\n")).readText "g" = .ok "ann=b\n" := by
  decide +kernel

end Warden
