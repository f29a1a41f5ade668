/-
Runs: what many steps leave behind.

# Contents

An `Attempt` is one reload as its caller sees it: the settings, and the
files as they are at that moment. Nothing ties the files of one attempt
to those of another, so a list of attempts is a history in which files
come, go and change in any way.

A part of a state that each step either sets or leaves alone holds, at
the end of a run, what was set last (`foldl_eq_getLastD`). Every law
about whole runs of one policy is this lemma at the parts of its state.

Where it takes the state to tell what a step sets, `settings` follows the
run and collects it (`foldl_eq_getLastD_settings`).

Where a run is itself a row of steps that others can look in between, what
they find is less than a whole state. But a part that is set once in a run
is, at any place, as it was before some run or is after it
(`exists_whole_of_cut`).

Where a step may be refused, so is every run with it in it. A run that is
not refused can be cut in two (`foldlM_append_eq_some`), and it keeps what
its steps keep (`foldlM_induction`).
-/
import Warden.FileSystem

namespace Warden

/-- One reload: the settings it is given, and the files it finds. -/
structure Attempt (C : Type) where
  config : C
  files : FileSystem

/-- A part of the state that every step sets or leaves alone holds what
was set last, or what it held at the start. -/
theorem foldl_eq_getLastD {σ α β : Type} (part : σ → α) {step : σ → β → σ}
    {set? : β → Option α} (h : ∀ s b, part (step s b) = (set? b).getD (part s)) :
    ∀ (run : List β) (s : σ),
      part (run.foldl step s) = (run.filterMap set?).getLastD (part s) := by
  intro run
  induction run with
  | nil => intro s; rfl
  | cons b rest ih =>
      intro s
      rw [List.foldl_cons, ih (step s b), h]
      cases hb : set? b with
      | none => rw [List.filterMap_cons_none hb, Option.getD_none]
      | some a => rw [List.filterMap_cons_some hb, List.getLastD_cons, Option.getD_some]

variable {σ α β γ : Type}

/-- What the steps of a run set, in order, where that depends on the state
they are taken in. -/
def settings (step : σ → β → σ) (set? : σ → β → Option α) : σ → List β → List α
  | _, [] => []
  | s, b :: rest => (set? s b).toList ++ settings step set? (step s b) rest

/-- As `foldl_eq_getLastD`, for the states that an invariant holds in. -/
theorem foldl_eq_getLastD_settings (part : σ → γ) (make : α → γ) {step : σ → β → σ}
    {set? : σ → β → Option α} (Holds : σ → Prop) (hkeep : ∀ s b, Holds s → Holds (step s b))
    (h : ∀ s b, Holds s → part (step s b) = ((set? s b).map make).getD (part s)) :
    ∀ (run : List β) (s : σ), Holds s →
      part (run.foldl step s) = ((settings step set? s run).map make).getLastD (part s) := by
  intro run
  induction run with
  | nil => intro s _; rfl
  | cons b rest ih =>
      intro s hs
      rw [List.foldl_cons, ih (step s b) (hkeep s b hs), h s b hs, settings]
      cases set? s b with
      | none => rfl
      | some a => exact (List.getLastD_cons ..).symm

/-- Runs one after the other, each a row of steps that sets a part of the
state once at most. Wherever the row of all steps is cut, the part is as
it is after some of the runs as a whole. -/
theorem exists_whole_of_cut (part : σ → α) {step : σ → γ → σ} {set? : γ → Option α}
    (h : ∀ s c, part (step s c) = (set? c).getD (part s)) {stepsOf : β → List γ}
    (honce : ∀ b, ((stepsOf b).filterMap set?).length ≤ 1) :
    ∀ (runs : List β) (s : σ) {before after : List γ}, runs.flatMap stepsOf = before ++ after →
      ∃ i ≤ runs.length, part (before.foldl step s)
        = part ((runs.take i).foldl (fun s b => (stepsOf b).foldl step s) s) := by
  intro runs
  induction runs with
  | nil =>
      intro s before after hrow
      obtain ⟨rfl, -⟩ := List.append_eq_nil_iff.mp hrow.symm
      exact ⟨0, Nat.le_refl 0, rfl⟩
  | cons b rest ih =>
      intro s before after hrow
      rw [List.flatMap_cons] at hrow
      rcases List.append_eq_append_iff.mp hrow with ⟨later, rfl, hrest⟩ | ⟨left, hsteps, -⟩
      case inl =>
        obtain ⟨i, hi, hwhole⟩ := ih ((stepsOf b).foldl step s) hrest
        exact ⟨i + 1, Nat.succ_le_succ hi, by rw [List.foldl_append]; exact hwhole⟩
      case inr =>
        -- The run is cut: what sets the part is among its steps so far, or not.
        have hlength := honce b
        rw [hsteps, List.filterMap_append, List.length_append] at hlength
        have hpart (steps : List γ) := foldl_eq_getLastD part h steps s
        by_cases hnone : before.filterMap set? = []
        case pos => exact ⟨0, Nat.zero_le _, by rw [hpart, hnone]; rfl⟩
        case neg =>
          have hleft : left.filterMap set? = [] := by
            have hset := List.length_pos_iff.mpr hnone
            exact List.length_eq_zero_iff.mp (by omega)
          refine ⟨1, Nat.succ_le_succ (Nat.zero_le _), ?_⟩
          show part (before.foldl step s) = part ((stepsOf b).foldl step s)
          rw [hpart, hpart, hsteps, List.filterMap_append, hleft, List.append_nil]

-- ============================================== steps that may be refused

section Refused

variable {step : σ → β → Option σ} {run later : List β} {s t : σ} {b : β}

/-- A run of two parts passes through a state in between. -/
theorem foldlM_append_eq_some (h : (run ++ later).foldlM step s = some t) :
    ∃ middle, run.foldlM step s = some middle ∧ later.foldlM step middle = some t := by
  rw [List.foldlM_append] at h
  exact Option.bind_eq_some_iff.mp h

/-- A run passes through the state after its first step. -/
theorem foldlM_cons_eq_some (h : (b :: run).foldlM step s = some t) :
    ∃ middle, step s b = some middle ∧ run.foldlM step middle = some t := by
  rw [List.foldlM_cons] at h
  exact Option.bind_eq_some_iff.mp h

/-- What every step of a run keeps, the run keeps. -/
theorem foldlM_induction {Q : σ → Prop} (h : run.foldlM step s = some t) (hs : Q s)
    (hstep : ∀ b ∈ run, ∀ {u v : σ}, Q u → step u b = some v → Q v) : Q t := by
  induction run generalizing s with
  | nil =>
      injection h with h
      exact h ▸ hs
  | cons b rest ih =>
      obtain ⟨middle, hfirst, hrest⟩ := foldlM_cons_eq_some h
      exact ih hrest (hstep b List.mem_cons_self hs hfirst)
        fun b hb => hstep b (List.mem_cons_of_mem _ hb)

end Refused

end Warden
