/-
Whom a shutdown signal reaches.

# Contents

`Step` is what can be done with the handles of one channel and with the
waiters made through them, each step with a handle or a waiter that is
there. What a row of steps does to the channel is counted: every trigger
is one more signal (`sent_steps`), and a waiter's cursor is the number of
signals there were when it was made, for good (`cursors_steps`).

# Why polls do not matter

A poll may leave a mark on its waiter, and the channel keeps only the last
signal, so that one who was not asked in time finds an error in its place.
Neither shows: a waiter that is marked has a signal past its cursor, or
there is no handle left. `Sound` says so, every step keeps it
(`sound_step`), and by it the answer to a poll depends on the cursor and
the channel alone (`resolved_eq_true_iff`). Since nobody takes a signal
back, and without a handle there is none to make another of
(`gone_steps`), the answer stays once it is yes.
-/
import Mathlib.Data.List.Induction
import Warden.Proofs.Run
import Warden.Shutdown

namespace Warden

namespace Shutdown

-- ================================================================= one poll

/-- A cursor finds something once more was sent than it has seen, or nobody
is left to send. -/
theorem Channel.find_ne_nothing_iff (c : Channel) (cursor : Nat) :
    c.find cursor ≠ .nothing ↔ cursor < c.sent ∨ c.handles = 0 := by
  unfold find
  split
  case isTrue hsent => split <;> simp [hsent]
  case isFalse hsent => split <;> simp [*]

namespace Waiter

variable (w : Waiter) (c : Channel)

/-- A waiter is resolved by something to be found, and then for good. -/
theorem fst_poll_eq_true_iff :
    (w.poll c).1 = true ↔ w.resolved = true ∨ w.cursor < c.sent ∨ c.handles = 0 := by
  rw [← c.find_ne_nothing_iff]
  unfold poll
  cases w.resolved with
  | true => simp
  | false => cases c.find w.cursor <;> simp

/-- A poll marks its waiter by its answer. -/
theorem resolved_poll : (w.poll c).2.resolved = (w.poll c).1 := by
  unfold poll
  cases hresolved : w.resolved with
  | true => simp [hresolved]
  | false => cases c.find w.cursor <;> simp [hresolved]

/-- A poll leaves the cursor where it is. -/
theorem cursor_poll : (w.poll c).2.cursor = w.cursor := by
  unfold poll
  cases w.resolved with
  | true => rfl
  | false => cases c.find w.cursor <;> rfl

end Waiter

-- ==================================================================== steps

/-- What can be done with the handles of a channel and with its waiters. -/
inductive Step where
  | clone (handle : Nat)
  | drop (handle : Nat)
  | signalled (handle : Nat)
  | trigger (handle : Nat)
  | poll (waiter : Nat)
deriving DecidableEq, Repr

def Step.isTrigger : Step → Bool
  | .trigger _ => true
  | _ => false

namespace Family

/-- Takes a step, if there is the handle or the waiter for it. -/
def step (f : Family) : Step → Option Family
  | .clone handle => if f.has handle then some f.clone.2 else none
  | .drop handle => if f.has handle then some (f.drop handle) else none
  | .signalled handle => if f.has handle then some f.signalled.2 else none
  | .trigger handle => if f.has handle then some f.trigger else none
  | .poll waiter => if waiter < f.waiters.length then some (f.resolved waiter).2 else none

/-- Takes several steps in order. -/
def steps (f : Family) (run : List Step) : Option Family := run.foldlM step f

/-- How many signals there were when each waiter was made. -/
def cursors (f : Family) : List Nat := f.waiters.map (·.cursor)

/-- Every waiter has a cursor. -/
theorem length_cursors (f : Family) : f.cursors.length = f.waiters.length := List.length_map _

variable {f g : Family} {s : Step} {l : List Step} {n : Nat} {w : Waiter}

/-- All that a step can do, with what it takes. -/
inductive Took (f : Family) : Step → Family → Prop where
  | clone {handle} (h : f.has handle = true) : Took f (.clone handle) f.clone.2
  | drop {handle} (h : f.has handle = true) : Took f (.drop handle)
      { f with channel := f.channel.drop, handles := f.handles.set handle false }
  | signalled {handle} (h : f.has handle = true) : Took f (.signalled handle) f.signalled.2
  | trigger {handle} (h : f.has handle = true) : Took f (.trigger handle) f.trigger
  | poll {waiter w} (h : f.waiters[waiter]? = some w) : Took f (.poll waiter)
      { f with waiters := f.waiters.set waiter (w.poll f.channel).2 }

theorem resolved_of_getElem?_eq_some (hw : f.waiters[n]? = some w) :
    f.resolved n = ((w.poll f.channel).1,
      { f with waiters := f.waiters.set n (w.poll f.channel).2 }) := by
  simp [resolved, hw]

/-- What a step takes is there before it. -/
theorem took_of_step (h : f.step s = some g) : Took f s g := by
  cases s with
  | clone handle =>
      obtain ⟨hhas, rfl⟩ := Option.ite_some_none_eq_some.mp h
      exact .clone hhas
  | drop handle =>
      obtain ⟨hhas, rfl⟩ := Option.ite_some_none_eq_some.mp h
      have hthere : f.handles[handle]? = some true := eq_of_beq hhas
      rw [Family.drop, if_pos hthere]
      exact .drop hhas
  | signalled handle =>
      obtain ⟨hhas, rfl⟩ := Option.ite_some_none_eq_some.mp h
      exact .signalled hhas
  | trigger handle =>
      obtain ⟨hhas, rfl⟩ := Option.ite_some_none_eq_some.mp h
      exact .trigger hhas
  | poll waiter =>
      obtain ⟨hlt, rfl⟩ := Option.ite_some_none_eq_some.mp h
      have hw := List.getElem?_eq_getElem hlt
      rw [resolved_of_getElem?_eq_some hw]
      exact .poll hw

-- =========================================================== what is counted

/-- A trigger is one more signal, and nothing else is. -/
theorem sent_step (h : f.step s = some g) :
    g.channel.sent = f.channel.sent + if s.isTrigger then 1 else 0 := by
  cases took_of_step h <;> rfl

/-- Every trigger sends once. -/
theorem sent_steps (h : f.steps l = some g) :
    g.channel.sent = f.channel.sent + l.countP Step.isTrigger := by
  induction l generalizing f with
  | nil =>
      injection h with h
      rw [h]
      rfl
  | cons s rest ih =>
      obtain ⟨middle, hfirst, hrest⟩ := foldlM_cons_eq_some h
      rw [ih hrest, sent_step hfirst, List.countP_cons]
      omega

/-- A new waiter begins at the signals there are, and no cursor is moved. -/
theorem cursors_step (h : f.step s = some g) :
    g.cursors = f.cursors
      ∨ (∃ handle, s = .signalled handle) ∧ g.cursors = f.cursors ++ [f.channel.sent] := by
  cases took_of_step h with
  | clone => exact .inl rfl
  | drop => exact .inl rfl
  | signalled => exact .inr ⟨⟨_, rfl⟩, List.map_append⟩
  | trigger => exact .inl rfl
  | poll hw =>
      left
      obtain ⟨hlt, rfl⟩ := List.getElem?_eq_some_iff.mp hw
      unfold cursors
      rw [List.map_set, Waiter.cursor_poll,
        ← List.getElem_map Waiter.cursor (h := by simpa using hlt), List.set_getElem_self]

/-- No cursor is moved or lost while others come. -/
theorem cursors_steps (h : f.steps l = some g) : f.cursors <+: g.cursors := by
  refine foldlM_induction (Q := fun k => f.cursors <+: k.cursors) h (List.prefix_refl _) ?_
  intro s _ k k' hprefix hstep
  rcases cursors_step hstep with hsame | ⟨-, hmore⟩
  · rwa [hsame]
  · rw [hmore]
    exact hprefix.trans (List.prefix_append ..)

-- ============================================================ the invariant

/-- The channel counts the handles that exist, no waiter was made after
signals that are yet to come, and one that is marked has its reason. -/
structure Sound (f : Family) : Prop where
  counted : f.channel.handles = f.handles.count true
  reached : ∀ w ∈ f.waiters, w.cursor ≤ f.channel.sent
  marked : ∀ w ∈ f.waiters, w.resolved = true →
    w.cursor < f.channel.sent ∨ f.channel.handles = 0

theorem sound_new : new.Sound where
  counted := rfl
  reached := by intro w hw; cases hw
  marked := by intro w hw; cases hw

/-- While a handle exists, the channel counts one. -/
theorem Sound.handles_pos (hf : f.Sound) {handle : Nat} (hhas : f.has handle = true) :
    0 < f.channel.handles := by
  have hthere : f.handles[handle]? = some true := eq_of_beq hhas
  rw [hf.counted, List.count_pos_iff]
  exact List.mem_of_getElem? hthere

/-- Nobody is left to send if no handle is. -/
theorem Sound.handles_eq_zero_iff (hf : f.Sound) :
    f.channel.handles = 0 ↔ ∀ handle, f.has handle = false := by
  constructor
  · intro hzero handle
    cases hhas : f.has handle with
    | false => rfl
    | true => exact absurd hzero (Nat.ne_of_gt (hf.handles_pos hhas))
  · intro hnone
    rw [hf.counted, List.count_eq_zero]
    intro hmem
    obtain ⟨handle, hthere⟩ := List.getElem?_of_mem hmem
    have hhas : f.has handle = true := by simp [has, hthere]
    rw [hnone handle] at hhas
    cases hhas

/-- Every step keeps the number of handles right. -/
theorem sound_step (hf : f.Sound) (h : f.step s = some g) : g.Sound := by
  cases took_of_step h with
  | clone hhas =>
      refine ⟨?_, hf.reached, fun w hw hmark => ?_⟩
      · simp [Family.clone, Channel.clone, hf.counted]
      · -- The handle that was cloned is one, so there is a signal.
        have hpos := hf.handles_pos hhas
        exact .inl ((hf.marked w hw hmark).resolve_right (Nat.ne_of_gt hpos))
  | @drop handle hhas =>
      have hthere : f.handles[handle]? = some true := eq_of_beq hhas
      obtain ⟨hlt, htrue⟩ := List.getElem?_eq_some_iff.mp hthere
      refine ⟨?_, hf.reached, fun w hw hmark => ?_⟩
      · simp [Channel.drop, hf.counted, List.count_set, hlt, htrue]
      · refine (hf.marked w hw hmark).imp_right fun hzero => ?_
        simp [Channel.drop, hzero]
  | signalled =>
      refine ⟨hf.counted, ?_, ?_⟩
      · intro w hw
        rcases List.mem_append.mp hw with hold | hnew
        · exact hf.reached w hold
        · rw [List.mem_singleton.mp hnew]
          exact Nat.le_refl _
      · intro w hw hmark
        rcases List.mem_append.mp hw with hold | hnew
        · exact hf.marked w hold hmark
        · rw [List.mem_singleton.mp hnew] at hmark
          cases hmark
  | trigger =>
      refine ⟨hf.counted, fun w hw => Nat.le_succ_of_le (hf.reached w hw), fun w hw hmark => ?_⟩
      exact (hf.marked w hw hmark).imp_left Nat.lt_succ_of_lt
  | @poll waiter w hw =>
      have hmem := List.mem_of_getElem? hw
      refine ⟨hf.counted, ?_, ?_⟩
      · intro v hv
        rcases List.mem_or_eq_of_mem_set hv with hold | rfl
        · exact hf.reached v hold
        · rw [Waiter.cursor_poll]
          exact hf.reached w hmem
      · intro v hv hmark
        rcases List.mem_or_eq_of_mem_set hv with hold | rfl
        · exact hf.marked v hold hmark
        · rw [Waiter.resolved_poll, Waiter.fst_poll_eq_true_iff] at hmark
          rw [Waiter.cursor_poll]
          exact hmark.elim (hf.marked w hmem) id

/-- A run keeps the number of handles right. -/
theorem sound_steps (h : new.steps l = some f) : f.Sound :=
  foldlM_induction h sound_new fun _ _ {_ _} hs hstep => sound_step hs hstep

/-- Whether the waiter was asked before makes no difference. -/
theorem Sound.resolved_eq_true_iff (hf : f.Sound) {cursor : Nat}
    (hn : f.cursors[n]? = some cursor) :
    (f.resolved n).1 = true ↔ cursor < f.channel.sent ∨ ∀ handle, f.has handle = false := by
  rw [cursors, List.getElem?_map] at hn
  obtain ⟨w, hw, rfl⟩ := Option.map_eq_some_iff.mp hn
  rw [resolved_of_getElem?_eq_some hw, ← hf.handles_eq_zero_iff]
  show (w.poll f.channel).1 = true ↔ _
  rw [Waiter.fst_poll_eq_true_iff, or_iff_right_iff_imp]
  exact hf.marked w (List.mem_of_getElem? hw)

/-- Without a handle there is nothing to be done but polling. -/
theorem gone_steps (h : f.steps l = some g) (hgone : ∀ handle, f.has handle = false) :
    ∀ handle, g.has handle = false := by
  refine foldlM_induction (Q := fun k => ∀ handle, k.has handle = false) h hgone ?_
  intro s _ k k' hnone hstep
  cases took_of_step hstep with
  | clone hhas => rw [hnone] at hhas; cases hhas
  | drop hhas => rw [hnone] at hhas; cases hhas
  | signalled hhas => rw [hnone] at hhas; cases hhas
  | trigger hhas => rw [hnone] at hhas; cases hhas
  | poll => exact hnone

-- ============================================================== whole runs

/-- A run makes the waiter of this number, and then takes these steps. -/
def Makes (run : List Step) (n : Nat) (later : List Step) : Prop :=
  ∃ before handle atMaking, run = before ++ .signalled handle :: later
    ∧ new.steps before = some atMaking ∧ atMaking.signalled.1 = n

/-- Every waiter was made by one of the steps. -/
theorem exists_makes (h : new.steps l = some f) (hn : n < f.waiters.length) :
    ∃ later, Makes l n later := by
  induction l using List.reverseRecOn generalizing f with
  | nil =>
      injection h with h
      rw [← h] at hn
      exact absurd hn (Nat.not_lt_zero n)
  | append_singleton l s ih =>
      obtain ⟨middle, hbefore, hlast⟩ := foldlM_append_eq_some h
      obtain ⟨g, hstep, hnil⟩ := foldlM_cons_eq_some hlast
      injection hnil with hnil
      subst hnil
      by_cases hold : n < middle.waiters.length
      case pos =>
        obtain ⟨later, before, handle, atMaking, rfl, hmaking⟩ := ih hbefore hold
        exact ⟨later ++ [s], before, handle, atMaking, by simp, hmaking⟩
      case neg =>
        rw [← length_cursors] at hn hold
        rcases cursors_step hstep with hsame | ⟨⟨handle, rfl⟩, hmore⟩
        · rw [hsame] at hn
          exact absurd hn hold
        · rw [hmore, List.length_append, List.length_singleton] at hn
          refine ⟨[], l, handle, middle, rfl, hbefore, ?_⟩
          show middle.waiters.length = n
          rw [← length_cursors]
          omega

/-- Steps that trigger are those that are counted. -/
theorem exists_trigger_iff : (∃ handle, .trigger handle ∈ l) ↔ 0 < l.countP Step.isTrigger := by
  rw [List.countP_pos_iff]
  constructor
  · rintro ⟨handle, hmem⟩
    exact ⟨_, hmem, rfl⟩
  · rintro ⟨s, hmem, htrigger⟩
    cases s with
    | trigger handle => exact ⟨handle, hmem⟩
    | clone | drop | signalled | poll => cases htrigger

/-- A waiter's cursor is what was sent up to its making, so what is past it
are the triggers since. -/
theorem Makes.resolved_eq_true_iff {later : List Step} (hmakes : Makes l n later)
    (h : new.steps l = some f) :
    (f.resolved n).1 = true
      ↔ (∃ handle, .trigger handle ∈ later) ∨ ∀ handle, f.has handle = false := by
  obtain ⟨before, handle, atMaking, rfl, hbefore, rfl⟩ := hmakes
  obtain ⟨f₁, hbefore', hrest⟩ := foldlM_append_eq_some h
  obtain rfl : atMaking = f₁ := Option.some.inj (hbefore.symm.trans hbefore')
  obtain ⟨made, hmade, hlater⟩ := foldlM_cons_eq_some hrest
  obtain ⟨-, rfl⟩ := Option.ite_some_none_eq_some.mp hmade
  have hcursor : f.cursors[atMaking.signalled.1]? = some atMaking.channel.sent := by
    obtain ⟨more, hmore⟩ := cursors_steps hlater
    rw [← hmore]
    simp [cursors, signalled, Channel.waiter]
  rw [(sound_steps h).resolved_eq_true_iff hcursor, exists_trigger_iff, sent_steps hlater]
  exact or_congr_left Nat.lt_add_right_iff_pos

/-- After any steps of a family, each with a handle or a waiter that was
there: every waiter was made by some step, and a poll finds it resolved
exactly if there was a trigger since, through whatever handle, or there is
no handle left. It is so whether or not it was polled before, and however
many triggers there were, before it or since. Once resolved, it is found
resolved after any further steps. -/
theorem resolved_iff_triggered_since {run : List Step} {f : Family}
    (h : new.steps run = some f) :
    (∀ n < f.waiters.length, ∃ later, Makes run n later)
      ∧ ∀ n later, Makes run n later →
        ((f.resolved n).1 = true
            ↔ (∃ handle, .trigger handle ∈ later) ∨ ∀ handle, f.has handle = false)
          ∧ ((f.resolved n).1 = true →
            ∀ more g, f.steps more = some g → (g.resolved n).1 = true) := by
  refine ⟨fun n hn => exists_makes h hn, fun n later hmakes =>
    ⟨hmakes.resolved_eq_true_iff h, fun hresolved more g hmore => ?_⟩⟩
  have hrun : new.steps (run ++ more) = some g := by
    unfold steps at h hmore ⊢
    rw [List.foldlM_append, h]
    exact hmore
  have hlonger : Makes (run ++ more) n (later ++ more) := by
    obtain ⟨before, handle, atMaking, rfl, hmaking⟩ := hmakes
    exact ⟨before, handle, atMaking, by simp, hmaking⟩
  rw [hlonger.resolved_eq_true_iff hrun]
  rcases (hmakes.resolved_eq_true_iff h).mp hresolved with ⟨handle, htrigger⟩ | hgone
  · exact .inl ⟨handle, List.mem_append_left more htrigger⟩
  · exact .inr (gone_steps hmore hgone)

/-- The first of two waiters is polled when two signals have overrun the
channel, the second came after both. A clone is left, so the second waits. -/
theorem resolved_iff_triggered_since_of_two :
    ∃ f, new.steps [.signalled 0, .clone 0, .poll 0, .trigger 1, .trigger 0, .drop 0,
        .signalled 1, .poll 1] = some f
      ∧ (f.resolved 0).1 = true ∧ (f.resolved 1).1 = false
      ∧ ∀ more g, f.steps more = some g → (g.resolved 0).1 = true := by
  obtain ⟨f, hrun⟩ : ∃ f, new.steps [.signalled 0, .clone 0, .poll 0, .trigger 1, .trigger 0,
      .drop 0, .signalled 1, .poll 1] = some f := ⟨_, rfl⟩
  have hkept : f.has 1 = true := by
    injection hrun with hrun
    rw [← hrun]
    decide
  obtain ⟨-, hwaiters⟩ := resolved_iff_triggered_since hrun
  obtain ⟨hfirst, hstays⟩ := hwaiters 0
    [.clone 0, .poll 0, .trigger 1, .trigger 0, .drop 0, .signalled 1, .poll 1]
    ⟨[], 0, new, rfl, rfl, rfl⟩
  obtain ⟨hsecond, -⟩ := hwaiters 1 [.poll 1]
    ⟨[.signalled 0, .clone 0, .poll 0, .trigger 1, .trigger 0, .drop 0], 1, _, rfl, rfl, rfl⟩
  have hresolved : (f.resolved 0).1 = true := hfirst.mpr (.inl ⟨1, by decide⟩)
  refine ⟨f, hrun, hresolved, Bool.eq_false_iff.mpr fun hyes => ?_, hstays hresolved⟩
  rcases hsecond.mp hyes with ⟨handle, htrigger⟩ | hgone
  · simp at htrigger
  · rw [hgone 1] at hkept
    cases hkept

end Family

end Shutdown

end Warden
