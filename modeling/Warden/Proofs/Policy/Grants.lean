/-
An access check beside reloads.

# Contents

A check reads the switch, then the fixed list, then the variable list, and
stops as soon as one of them decides (`Stage.read`); read in one state,
the three make the check (`read_read_read`). Reloads take turns, and each
publishes its switch and then the lists that it loaded (`stepsOf`). An
interleaving is a row of moves, each a read of the check or the next step
of the reloads (`take`).

# Why nothing is mixed

What the check reads at different moments may belong to different
reloads. But a grant never puts two readings together: a switch that is
off, a fixed list with the address, or a variable list with the user is
enough by itself (`check_eq_ok_iff_opens`), and the reading that grants
(`read_eq_ok`) is of one moment. Each part of the state at that moment is
that of some whole state (`opens_of_cut`), and so that state grants too
(`granted_by_one_state`).

A refusal does put readings together, all three of them, and no such law
holds of it.
-/
import Mathlib.Data.List.Induction
import Warden.Proofs.Policy.Whitelist

namespace Warden

namespace Whitelist

variable {w : Whitelist} {address user : String}

-- ================================================================ the steps

/-- What a reload publishes, one after the other. -/
def stepsOf (a : Attempt WhitelistConfig) : List Publication :=
  if a.config.enabled then
    publications (loadFixed a.config a.files).value (loadVariable a.config a.files).value
  else [.enabled false]

/-- The steps of a reload, one after the other, are the reload. -/
theorem foldl_stepsOf (a : Attempt WhitelistConfig) (w : Whitelist) :
    (stepsOf a).foldl publish w = (w.reload a.config a.files).value.2 := by
  cases hon : a.config.enabled <;> simp [stepsOf, reload, hon]

theorem replay_append (past later : List (Attempt WhitelistConfig)) :
    replay (past ++ later)
      = later.foldl (fun w a => (stepsOf a).foldl publish w) (replay past) := by
  simp only [foldl_stepsOf, replay, List.foldl_append]

/-- The switch that a step sets. -/
def Publication.switch? : Publication → Option Bool
  | .enabled on => some on
  | .fixed _ | .variableList _ => none

/-- The fixed list that a step publishes. -/
def Publication.fixed? : Publication → Option (Slot Names)
  | .fixed addresses => some ⟨addresses⟩
  | .enabled _ | .variableList _ => none

/-- The variable list that a step publishes. -/
def Publication.variableList? : Publication → Option (Slot Roster)
  | .variableList users => some ⟨users⟩
  | .enabled _ | .fixed _ => none

/-- A step sets the switch, or leaves it. -/
theorem enabled_publish (w : Whitelist) (step : Publication) :
    (w.publish step).enabled = step.switch?.getD w.enabled := by
  cases step <;> rfl

theorem fixed_publish (w : Whitelist) (step : Publication) :
    (w.publish step).fixed = step.fixed?.getD w.fixed := by
  cases step <;> rfl

theorem variableList_publish (w : Whitelist) (step : Publication) :
    (w.publish step).variableList = step.variableList?.getD w.variableList := by
  cases step <;> rfl

/-- A reload sets the switch once, and each list once at most. -/
theorem stepsOf_sets_once (a : Attempt WhitelistConfig) :
    ((stepsOf a).filterMap Publication.switch?).length ≤ 1
      ∧ ((stepsOf a).filterMap Publication.fixed?).length ≤ 1
      ∧ ((stepsOf a).filterMap Publication.variableList?).length ≤ 1 := by
  unfold stepsOf publications
  cases a.config.enabled with
  | false => exact ⟨Nat.le_refl 1, Nat.zero_le 1, Nat.zero_le 1⟩
  | true =>
      cases (loadFixed a.config a.files).value <;>
        cases (loadVariable a.config a.files).value <;>
        exact ⟨Nat.le_refl 1, Nat.le_of_ble_eq_true rfl, Nat.le_of_ble_eq_true rfl⟩

-- ================================================================ the reads

/-- What a check reads next, or what it came to. -/
inductive Stage where
  | atSwitch
  | atFixed
  | atVariable
  | decided (answer : Except AccessDenied Unit)
deriving DecidableEq

/-- The next read of a check. -/
def Stage.read (address user : String) (w : Whitelist) : Stage → Stage
  | .atSwitch => if w.enabled then .atFixed else .decided (.ok ())
  | .atFixed => if w.fixed.current.contains address then .decided (.ok ()) else .atVariable
  | .atVariable =>
    .decided (match w.variableList.current.find? address with
      | none => .error (.unknownAddress address user)
      | some users =>
        if users.contains user then .ok () else .error (.userNotAllowed address user))
  | .decided answer => .decided answer

/-- All reads in one state are a check of it. -/
theorem read_read_read (w : Whitelist) (address user : String) :
    ((Stage.atSwitch.read address user w).read address user w).read address user w
      = .decided (w.check address user) := by
  unfold check judge
  cases hon : w.enabled with
  | false => simp [Stage.read, hon]
  | true =>
      cases hfixed : w.fixed.current.contains address with
      | true => simp [Stage.read, hon, hfixed]
      | false =>
          cases hfind : w.variableList.current.find? address <;>
            simp [Stage.read, hon, hfixed, hfind]

/-- Some part of the whitelist grants the access, whatever the others are. -/
def Opens (w : Whitelist) (address user : String) : Prop :=
  w.enabled = false ∨ w.fixed.current.contains address = true
    ∨ ∃ users, w.variableList.current.find? address = some users ∧ users.contains user = true

/-- A check grants if one of the three readings opens. -/
theorem check_eq_ok_iff_opens : w.check address user = .ok () ↔ w.Opens address user := by
  unfold check judge Opens
  cases hon : w.enabled with
  | false => simp
  | true =>
      cases hfixed : w.fixed.current.contains address with
      | true => simp
      | false => cases w.variableList.current.find? address <;> simp

/-- A read that decides for the access found the part that grants it. -/
theorem read_eq_ok {stage : Stage} (hopen : stage ≠ .decided (.ok ()))
    (hok : stage.read address user w = .decided (.ok ())) : w.Opens address user := by
  cases stage with
  | atSwitch =>
      cases hon : w.enabled with
      | false => exact .inl hon
      | true => simp [Stage.read, hon] at hok
  | atFixed =>
      cases hfixed : w.fixed.current.contains address with
      | true => exact .inr (.inl hfixed)
      | false => simp [Stage.read, hfixed] at hok
  | atVariable =>
      simp only [Stage.read] at hok
      cases hfind : w.variableList.current.find? address with
      | none => simp [hfind] at hok
      | some users =>
          cases huser : users.contains user with
          | true => exact .inr (.inr ⟨users, hfind, huser⟩)
          | false => simp [hfind, huser] at hok
  | decided answer => exact absurd hok hopen

-- ============================================================ interleavings

/-- A read of the check, or a step of the reloads. -/
inductive Move where
  | read
  | publish (step : Publication)

def Move.publication? : Move → Option Publication
  | .read => none
  | .publish step => some step

/-- Takes a move, with the whitelist as it is and the check where it is. -/
def take (address user : String) (s : Whitelist × Stage) : Move → Whitelist × Stage
  | .read => (s.1, s.2.read address user s.1)
  | .publish step => (s.1.publish step, s.2)

/-- The whitelist is what the steps so far have made of it. -/
theorem fst_foldl_take (moves : List Move) (s : Whitelist × Stage) :
    (moves.foldl (take address user) s).1
      = (moves.filterMap Move.publication?).foldl publish s.1 := by
  induction moves generalizing s with
  | nil => rfl
  | cons move rest ih => cases move <;> exact ih _

/-- What opens a state between any two steps opens a state between two
reloads. -/
theorem opens_of_cut {reloads : List (Attempt WhitelistConfig)}
    (past : List (Attempt WhitelistConfig)) {before : List Publication}
    (hrow : before <+: reloads.flatMap stepsOf)
    (hopens : (before.foldl publish (replay past)).Opens address user) :
    ∃ i ≤ reloads.length, (replay (past ++ reloads.take i)).Opens address user := by
  obtain ⟨after, hrow⟩ := hrow
  simp only [replay_append]
  rcases hopens with hoff | hfixed | ⟨users, hfind, huser⟩
  · obtain ⟨i, hi, hsame⟩ := exists_whole_of_cut Whitelist.enabled enabled_publish
      (fun a => (stepsOf_sets_once a).1) reloads (replay past) hrow.symm
    exact ⟨i, hi, .inl (hsame ▸ hoff)⟩
  · obtain ⟨i, hi, hsame⟩ := exists_whole_of_cut Whitelist.fixed fixed_publish
      (fun a => (stepsOf_sets_once a).2.1) reloads (replay past) hrow.symm
    exact ⟨i, hi, .inr (.inl (hsame ▸ hfixed))⟩
  · obtain ⟨i, hi, hsame⟩ := exists_whole_of_cut Whitelist.variableList variableList_publish
      (fun a => (stepsOf_sets_once a).2.2) reloads (replay past) hrow.symm
    exact ⟨i, hi, .inr (.inr ⟨users, hsame ▸ hfind, huser⟩)⟩

/-- A check of some user and address beside any reloads, after any others
that were over before it began: its reads and the steps of the reloads
come in any order, each in its own, and the last reload need not be at its
end. If the check grants the access, then so does a check alone in the
state before these reloads, or after some of them. The induction is on the
last move; the one that matters is the read that decides. -/
theorem granted_by_one_state (past reloads : List (Attempt WhitelistConfig)) (address user : String)
    {moves : List Move} (hmoves : moves.filterMap Move.publication? <+: reloads.flatMap stepsOf)
    (hok : (moves.foldl (take address user) (replay past, .atSwitch)).2 = .decided (.ok ())) :
    ∃ i ≤ reloads.length,
      (replay (past ++ reloads.take i)).check address user = .ok () := by
  simp only [check_eq_ok_iff_opens]
  induction moves using List.reverseRecOn with
  | nil => cases hok
  | append_singleton moves move ih =>
      rw [List.filterMap_append] at hmoves
      have hbefore : moves.filterMap Move.publication? <+: reloads.flatMap stepsOf :=
        (List.prefix_append ..).trans hmoves
      rw [List.foldl_append, List.foldl_cons, List.foldl_nil] at hok
      cases move with
      | publish step => exact ih hbefore hok
      | read =>
          by_cases hdecided : (moves.foldl (take address user) (replay past, .atSwitch)).2
              = .decided (.ok ())
          case pos => exact ih hbefore hdecided
          case neg =>
            have hopens := read_eq_ok hdecided hok
            rw [fst_foldl_take] at hopens
            exact opens_of_cut past hbefore hopens

/-- An address that goes from the variable list to the fixed one. The check
reads the switch before the reload and the fixed list in the midst of it. -/
theorem granted_by_one_state_on_the_move :
    let files (fixed variableList : String) :=
      ((FileSystem.empty []).write "f" (Text.utf8 fixed)).write "v" (Text.utf8 variableList)
    let config : WhitelistConfig :=
      { enabled := true, fixedFile := some "f", variableFile := some "v" }
    let old : Attempt WhitelistConfig := ⟨config, files "10.0.0.1\n" "10.0.0.2:ann\n"⟩
    let new : Attempt WhitelistConfig := ⟨config, files "10.0.0.2\n" "10.0.0.1:bob\n"⟩
    let steps := stepsOf new
    let moves : List Move := .read :: (steps.take 2).map .publish ++ [.read]
    moves.filterMap Move.publication? <+: [new].flatMap stepsOf
      ∧ (moves.foldl (take "10.0.0.2" "ann") (replay [old], .atSwitch)).2 = .decided (.ok ())
      ∧ ∃ i ≤ 1, (replay ([old] ++ [new].take i)).check "10.0.0.2" "ann" = .ok () := by
  intro files config old new steps moves
  have hpublished (l : List Publication) :
      (Move.read :: l.map .publish ++ [Move.read]).filterMap Move.publication? = l := by
    show (l.map Move.publish ++ [Move.read]).filterMap Move.publication? = l
    rw [List.filterMap_append, List.filterMap_map]
    show l.filterMap some ++ [] = l
    rw [List.filterMap_some, List.append_nil]
  have hmoves : moves.filterMap Move.publication? <+: [new].flatMap stepsOf := by
    rw [hpublished, List.flatMap_singleton]
    exact List.take_prefix 2 steps
  have hok : (moves.foldl (take "10.0.0.2" "ann") (replay [old], .atSwitch)).2
      = .decided (.ok ()) := by decide +kernel
  exact ⟨hmoves, hok, granted_by_one_state [old] [new] "10.0.0.2" "ann" hmoves hok⟩

/-- The same reload, between the reads of the two lists: the access is
refused, though it is granted before the reload and after it. -/
example :
    let files (fixed variableList : String) :=
      ((FileSystem.empty []).write "f" (Text.utf8 fixed)).write "v" (Text.utf8 variableList)
    let config : WhitelistConfig :=
      { enabled := true, fixedFile := some "f", variableFile := some "v" }
    let old : Attempt WhitelistConfig := ⟨config, files "10.0.0.1\n" "10.0.0.2:ann\n"⟩
    let new : Attempt WhitelistConfig := ⟨config, files "10.0.0.2\n" "10.0.0.1:bob\n"⟩
    let moves : List Move := [.read, .read] ++ (stepsOf new).map .publish ++ [.read]
    (replay [old]).check "10.0.0.2" "ann" = .ok ()
      ∧ (replay [old, new]).check "10.0.0.2" "ann" = .ok ()
      ∧ (moves.foldl (take "10.0.0.2" "ann") (replay [old], .atSwitch)).2
        = .decided (.error (.unknownAddress "10.0.0.2" "ann")) := by
  decide +kernel

end Whitelist

end Warden
