/-
What readers of group snapshots see, while others reload.

# Contents

A `Moment` is a command, or somebody taking the snapshot of a service's
groups to keep it. `Readers` is a host together with all snapshots that
were taken, and `after` what some moments leave behind. Questions leave
nothing behind, so they can be asked after any moments.

`groupText?` says which text a command loads into the groups of a
service, and `loaded` which texts some moments loaded, in order. What is
published is the roster of the last of them as a whole, or none
(`current_after`): the step is `current_perform`, a failed load being a
step that loads no text. A snapshot stays where it was put (`held_after`)
and answers as the service did when it was taken (`shows_snapshot`).
-/
import Warden.Proofs.Host.Reloading
import Warden.Proofs.Roster

namespace Warden

namespace Host

variable (files : FileSystem) {h : Host} {number : Nat} {s : Service}

-- ====================================================== what a command loads

/-- The text that a command loads into the groups of a service. -/
def groupText? (h : Host) (number : Nat) (c : Command) : Option String :=
  (h.settings? files number .groups c).bind fun config =>
    (Dataset.groups.source files config.groups.file).toOption

/-- It is the whole text of the file that the settings name. -/
theorem groupText?_eq_some_iff {c : Command} {text : String} :
    h.groupText? files number c = some text
      ↔ ∃ config, h.settings? files number .groups c = some config
          ∧ files.Supplies config.groups.file text := by
  have hsupplied (config : Config) :
      (Dataset.groups.source files config.groups.file).toOption = some text
        ↔ files.Supplies config.groups.file text := by
    rw [← Groups.source_eq_ok_iff]
    cases Dataset.groups.source files config.groups.file <;> simp [Except.toOption]
  simp only [groupText?, Option.bind_eq_some_iff, hsupplied]

/-- A command publishes the roster of the text that it loads, or leaves
the published one in place. -/
theorem current_perform (hsound : Sound h) (number : Nat) (c : Command) :
    ((h.perform files c).value.serviceAt number).groups.published.current
      = ((h.groupText? files number c).map Groups.rosterOf).getD
          (h.serviceAt number).groups.published.current := by
  have hgroups : ((h.perform files c).value.serviceAt number).groups
      = ((h.serviceAt number).settled files .groups (h.settings? files number .groups c)).groups :=
    sameIn_perform files hsound number .groups c
  rw [hgroups, groupText?]
  cases h.settings? files number .groups c with
  | none => rfl
  | some config => exact Groups.current_reload config.groups files (h.serviceAt number).groups

/-- A refresh of the groups answers with success if it loads a text. -/
theorem isSuccess_dispatch_groups (hserves : h.Serves number s .groups) (args : List String) :
    (h.dispatch files Policy.groups.identifier args).value.1.isSuccess = true
      ↔ ∃ text, h.groupText? files number (.dispatch Policy.groups.identifier args) = some text := by
  rw [dispatch_of_serves files args hserves, Response.isSuccess_ofOutcome]
  simp only [groupText?_eq_some_iff, settings?, if_true, hserves.refreshSettings? files]
  cases hload : s.source.load files with
  | error cause =>
      rw [Service.refresh_of_load_eq_error files hload]
      simp [Except.toOption]
  | ok config =>
      have hreload : (s.reload files config .groups).value.1 = .ok ()
          ↔ ∃ text, files.Supplies config.groups.file text :=
        s.groups.reload_eq_ok_iff config.groups files
      rw [Service.value_refresh_of_load_eq_ok files hload, Service.outcomeOf_eq_done_iff, hreload]
      simp [Except.toOption]

end Host

-- ================================================================== readers

/-- Something that happens: a command, with the files as they are then, or
the snapshot of a service's groups being taken. -/
inductive Moment where
  | command (files : FileSystem) (c : Command)
  | hold (number : Nat)

/-- A host, and the group snapshots that were taken of its services. -/
structure Readers where
  host : Host
  held : List Roster

namespace Readers

/-- No registration, no service and no snapshot. -/
def new : Readers := ⟨.new, []⟩

def step (r : Readers) : Moment → Readers
  | .command files c => { r with host := (r.host.perform files c).value }
  | .hold number =>
    { r with held := r.held ++ ((r.host.service? number).map (·.groups.snapshot)).toList }

/-- What some moments leave behind. -/
def after (past : List Moment) : Readers := past.foldl step new

/-- The text that a moment loads into the groups of a service. -/
def text? (number : Nat) (r : Readers) : Moment → Option String
  | .command files c => r.host.groupText? files number c
  | .hold _ => none

/-- The texts that some moments loaded into the groups of a service. -/
def loaded (number : Nat) (past : List Moment) : List String :=
  settings step (text? number) new past

/-- The step lemma: no moment breaks a host. -/
theorem sound_step {r : Readers} (m : Moment) (hsound : Host.Sound r.host) :
    Host.Sound (r.step m).host := by
  cases m with
  | command files c => exact Host.sound_perform files hsound c
  | hold number => exact hsound

/-- The run lemma, from a new host on. -/
theorem sound_after (past : List Moment) : Host.Sound (after past).host :=
  List.foldlRecOn (motive := fun r : Readers => Host.Sound r.host) past step Host.sound_new
    fun _ hsound m _ => sound_step m hsound

/-- What is published is the roster of the last text that was loaded. -/
theorem current_after (number : Nat) (past : List Moment) :
    ((after past).host.serviceAt number).groups.published.current
      = ((loaded number past).map Groups.rosterOf).getLastD ∅ := by
  refine foldl_eq_getLastD_settings
    (fun r : Readers => (r.host.serviceAt number).groups.published.current) Groups.rosterOf
    (fun r : Readers => Host.Sound r.host) (fun _ m => sound_step m) (fun r m hsound => ?_)
    past new Host.sound_new
  cases m with
  | command files c => exact Host.current_perform files hsound number c
  | hold number => rfl

-- ========================================================== held snapshots

/-- Nothing that happens later touches the snapshots that were taken. -/
theorem held_prefix_held_foldl (later : List Moment) :
    ∀ r : Readers, r.held <+: (later.foldl step r).held := by
  induction later with
  | nil => intro r; exact List.prefix_refl _
  | cons m rest ih =>
      intro r
      refine List.IsPrefix.trans ?_ (ih (r.step m))
      cases m with
      | command files c => exact List.prefix_refl _
      | hold number => exact List.prefix_append _ _

/-- What is held stays as it was taken, whatever happens later. -/
theorem held_after {past : List Moment} {number : Nat} {s : Service}
    (hservice : (after past).host.service? number = some s) (later : List Moment) :
    (after (past ++ .hold number :: later)).held[(after past).held.length]?
      = some s.groups.snapshot := by
  have htaken : ((after past).step (.hold number)).held
      = (after past).held ++ [s.groups.snapshot] := by simp [step, hservice]
  have hprefix := held_prefix_held_foldl later ((after past).step (.hold number))
  rw [htaken] at hprefix
  have hfold : after (past ++ .hold number :: later)
      = later.foldl step ((after past).step (.hold number)) := by simp [after]
  rw [hfold, List.prefix_iff_getElem?.mp hprefix _ (by simp)]
  simp

/-- A roster answers every question as the groups of a service do. -/
structure Shows (roster : Roster) (h : Host) (s : Service) : Prop where
  groups : ∀ user, roster.find? user
    = if (s.groups.groupsOf user).isEmpty then none else some (s.groups.groupsOf user)
  member : ∀ user group, (roster.find? user).any (·.contains group) = s.groups.hasGroup user group
  size : roster.size = (h.status s).groupUsers
  isEmpty : roster.isEmpty = ((h.status s).groupUsers == 0)

/-- A snapshot shows what the service shows when it is taken. -/
theorem shows_snapshot (h : Host) {s : Service}
    (hfull : ∀ user groups, s.groups.published.current.find? user = some groups →
      groups.isEmpty = false) : Shows s.groups.snapshot h s where
  groups := by
    intro user
    show s.groups.published.current.find? user = _
    unfold Groups.groupsOf
    cases hfind : s.groups.published.current.find? user with
    | none => rfl
    | some groups => simp [hfull user groups hfind]
  member := by
    intro user group
    show (s.groups.published.current.find? user).any (·.contains group) = _
    unfold Groups.hasGroup
    cases s.groups.published.current.find? user <;> rfl
  size := rfl
  isEmpty := Std.TreeMap.isEmpty_eq_size_eq_zero

/-- What is published is the roster of one text, if it is not empty. -/
theorem current_after_cases (number : Nat) (past : List Moment) :
    ((after past).host.serviceAt number).groups.published.current = ∅
      ∨ ∃ text ∈ loaded number past,
        ((after past).host.serviceAt number).groups.published.current = Groups.rosterOf text := by
  rw [current_after, List.getLastD_eq_getLast?, List.getLast?_map]
  cases hlast : (loaded number past).getLast? with
  | none => exact Or.inl rfl
  | some text => exact Or.inr ⟨text, List.mem_of_getLast? hlast, rfl⟩

/-- No user is listed without groups. -/
theorem isEmpty_of_find?_current_after {number : Nat} {past : List Moment} {user : String}
    {groups : Names}
    (hfind : ((after past).host.serviceAt number).groups.published.current.find? user
      = some groups) : groups.isEmpty = false := by
  rcases current_after_cases number past with hempty | ⟨text, -, hwhole⟩
  · rw [hempty, Roster.find?_empty] at hfind
    cases hfind
  · rw [hwhole] at hfind
    exact Roster.isEmpty_of_find?_ofText '=' text hfind

/-- A service's groups, after any commands on its host over any files and
with snapshots taken in between. What is published is empty, or all of the
text that was loaded last and of no other. A load counts if the setting
supplies a text, which is when a reload or a refresh of the groups is
answered with success; a reload that fails, and every command that loads
no text, leaves the groups as they are. A snapshot that is taken now is
what is published now. Whatever happens later, it has the groups, the
members and the number of users that the service has now. -/
theorem snapshots_stay_whole (past : List Moment) (number : Nat) {s : Service}
    (hservice : (after past).host.service? number = some s) :
    s.groups.published.current = ((loaded number past).map Groups.rosterOf).getLastD ∅
      ∧ (∀ files config,
          ((s.groups.reload config files).value.1 = .ok ()
              ↔ ∃ text, files.Supplies config.file text)
            ∧ ((s.groups.reload config files).value.1 ≠ .ok () →
              (s.groups.reload config files).value.2 = s.groups))
      ∧ (∀ files args, (after past).host.Serves number s .groups →
          (((after past).host.dispatch files Policy.groups.identifier args).value.1.isSuccess
              = true
            ↔ ∃ text, (after past).host.groupText? files number
                (.dispatch Policy.groups.identifier args) = some text))
      ∧ (∀ files c, (after past).host.groupText? files number c = none →
          (((after past).host.perform files c).value.serviceAt number).groups = s.groups)
      ∧ ∀ later, ∃ roster,
          (after (past ++ .hold number :: later)).held[(after past).held.length]? = some roster
            ∧ roster = ((loaded number past).map Groups.rosterOf).getLastD ∅
            ∧ Shows roster (after past).host s := by
  have hat : (after past).host.serviceAt number = s := Host.serviceAt_of_service? hservice
  have hcurrent : s.groups.published.current
      = ((loaded number past).map Groups.rosterOf).getLastD ∅ := by
    rw [← hat]
    exact current_after number past
  refine ⟨hcurrent, ?_, ?_, ?_, ?_⟩
  · intro files config
    exact ⟨s.groups.reload_eq_ok_iff config files, s.groups.reload_of_ne_ok config files⟩
  · intro files args hserves
    exact Host.isSuccess_dispatch_groups files hserves args
  · intro files c hnone
    have hkept := Host.current_perform files (sound_after past) number c
    rw [hnone, hat] at hkept
    -- The published roster is all that the groups consist of.
    exact congrArg (fun roster : Roster => (⟨⟨roster⟩⟩ : Groups)) hkept
  · intro later
    refine ⟨s.groups.snapshot, held_after hservice later, hcurrent, shows_snapshot _ ?_⟩
    intro user groups hfind
    rw [← hat] at hfind
    exact isEmpty_of_find?_current_after hfind

/-- A snapshot that was taken before the group file changed goes on to
show the old file only. -/
theorem snapshots_stay_whole_across_reload :
    let config : Config := { groups := { file := some "g" } }
    let files (text : String) : FileSystem := (FileSystem.empty []).write "g" (Text.utf8 text)
    let past : List Moment := [.command (files "ann=a\n") (.start (.fixed config))]
    let later : List Moment :=
      [.command (files "ann=b\n") (.dispatch Policy.groups.identifier [])]
    let s := (after past).host.serviceAt 0
    (after past).host.service? 0 = some s
      ∧ s.groups.published.current = Groups.rosterOf "ann=a\n"
      ∧ loaded 0 (past ++ .hold 0 :: later) = ["ann=a\n", "ann=b\n"]
      ∧ ∃ roster, (after (past ++ .hold 0 :: later)).held[0]? = some roster
          ∧ roster = Groups.rosterOf "ann=a\n" ∧ Shows roster (after past).host s := by
  intro config files past later s
  have hservice : (after past).host.service? 0 = some s :=
    Host.service?_eq_some_serviceAt (by decide +kernel)
  have hloaded : loaded 0 past = ["ann=a\n"] := by decide +kernel
  obtain ⟨hcurrent, -, -, -, hheld⟩ := snapshots_stay_whole past 0 hservice
  rw [hloaded] at hcurrent hheld
  exact ⟨hservice, hcurrent, by decide +kernel, hheld later⟩

end Readers

end Warden
