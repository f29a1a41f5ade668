/-
A password check beside reloads.

# Contents

A check reads the switch and then the entries; a reload publishes a new
switch and then, where it changes them, new entries (`stepsOf`). Reloads
take turns, so their steps stand in one row, and a check reads at two
places of the row. Each of the two readings alone is that of a state
between two reloads (`whole_of_steps`), but the two need not be of the
same one.

That they are read in one order and published in one order does not make
up for it. What does is that there are no entries while checking is off:
a switch that is on together with entries of a state where it is off is a
check of everybody against nothing. So a check says what one whole state
says, or it denies the user as unknown, which takes a state with checking
off (`check_beside_reloads`). Both windows where it denies are real
(`denied_between_publications`).
-/
import Warden.Proofs.Policy.Passwords

namespace Warden

namespace Passwords

variable (algorithm : Algorithm)

-- ================================================================ the steps

/-- What a reload publishes, one after the other. -/
def stepsOf (a : Attempt PasswordConfig) : List Publication :=
  if a.config.enabled then publications (load a.config a.files).value
  else [.enabled false, .cleared]

/-- What a check says that reads the switch of one state and the entries of
another. -/
def checkAcross (atSwitch atEntries : Passwords) (user : String) (password : Option String) :
    Except PasswordDenied Unit :=
  judge atSwitch.algorithm atSwitch.enabled atEntries.published.current user password

/-- The steps of a reload, one after the other, are the reload. -/
theorem foldl_stepsOf (a : Attempt PasswordConfig) (p : Passwords) :
    (stepsOf a).foldl publish p = (p.reload a.config a.files).value.2 := by
  cases hon : a.config.enabled with
  | false => simp [stepsOf, reload, hon]
  | true =>
      cases hload : (load a.config a.files).value <;>
        simp [stepsOf, reload, hon, hload, publications]

/-- A reload publishes its switch first, and then at most the entries. -/
theorem stepsOf_eq (a : Attempt PasswordConfig) :
    ∃ tail, stepsOf a = .enabled a.config.enabled :: tail ∧ tail.length ≤ 1 := by
  cases hon : a.config.enabled with
  | false => exact ⟨[.cleared], by simp [stepsOf, hon], Nat.le_refl 1⟩
  | true =>
      cases hload : (load a.config a.files).value with
      | error e => exact ⟨[], by simp [stepsOf, hon, hload, publications], Nat.zero_le 1⟩
      | ok users =>
          exact ⟨[.entries users], by simp [stepsOf, hon, hload, publications], Nat.le_refl 1⟩

/-- Reloads after reloads go on from where these have led. -/
theorem replay_append (past later : List (Attempt PasswordConfig)) :
    replay algorithm (past ++ later)
      = later.foldl (fun p a => (stepsOf a).foldl publish p) (replay algorithm past) := by
  simp only [foldl_stepsOf, replay, List.foldl_append]

/-- No step changes the digest algorithm. -/
theorem algorithm_foldl_publish (steps : List Publication) (p : Passwords) :
    (steps.foldl publish p).algorithm = p.algorithm := by
  induction steps generalizing p with
  | nil => rfl
  | cons step rest ih => exact (ih (publish p step)).trans (by cases step <;> rfl)

/-- No reload changes the algorithm. -/
theorem algorithm_replay (past : List (Attempt PasswordConfig)) :
    (replay algorithm past).algorithm = algorithm := by
  induction past using List.reverseRecOn with
  | nil => rfl
  | append_singleton past a ih => rw [replay_concat, algorithm_reload, ih]

/-- While checking is off there is no entry. -/
theorem published_of_off {past : List (Attempt PasswordConfig)}
    (hoff : (replay algorithm past).enabled = false) :
    (replay algorithm past).published.current = ∅ := by
  rw [published_replay, sinceOff_eq_nil algorithm hoff]
  rfl

-- ============================================================= one reading

/-- The switch that a step sets. -/
def Publication.switch? : Publication → Option Bool
  | .enabled on => some on
  | .cleared | .entries _ => none

/-- What a step puts in the place of the entries. -/
def Publication.entries? : Publication → Option (Slot Credentials)
  | .enabled _ => none
  | .cleared => some .empty
  | .entries users => some ⟨users⟩

/-- A step sets the switch, or leaves it. -/
theorem enabled_publish (p : Passwords) (step : Publication) :
    (p.publish step).enabled = step.switch?.getD p.enabled := by
  cases step <;> rfl

/-- A step sets the entries, or leaves them. -/
theorem published_publish (p : Passwords) (step : Publication) :
    (p.publish step).published = step.entries?.getD p.published := by
  cases step <;> rfl

/-- A reload sets the switch once, and the entries once at most. -/
theorem stepsOf_sets_once (a : Attempt PasswordConfig) :
    ((stepsOf a).filterMap Publication.switch?).length ≤ 1
      ∧ ((stepsOf a).filterMap Publication.entries?).length ≤ 1 := by
  unfold stepsOf publications
  cases a.config.enabled with
  | false => exact ⟨Nat.le_refl 1, Nat.le_refl 1⟩
  | true =>
      cases (load a.config a.files).value with
      | error e => exact ⟨Nat.le_refl 1, Nat.zero_le 1⟩
      | ok users => exact ⟨Nat.le_refl 1, Nat.le_refl 1⟩

/-- Anywhere in the row of steps, the switch is that of a state between two
reloads, and so are the entries. -/
theorem whole_of_steps {reloads : List (Attempt PasswordConfig)}
    (past : List (Attempt PasswordConfig)) {before after : List Publication}
    (hrow : reloads.flatMap stepsOf = before ++ after) :
    (∃ i ≤ reloads.length, (before.foldl publish (replay algorithm past)).enabled
        = (replay algorithm (past ++ reloads.take i)).enabled)
      ∧ ∃ j ≤ reloads.length, (before.foldl publish (replay algorithm past)).published
        = (replay algorithm (past ++ reloads.take j)).published := by
  simp only [replay_append]
  constructor
  · exact exists_whole_of_cut Passwords.enabled enabled_publish
      (fun a => (stepsOf_sets_once a).1) reloads _ hrow
  · exact exists_whole_of_cut Passwords.published published_publish
      (fun a => (stepsOf_sets_once a).2) reloads _ hrow

-- ============================================================ two readings

/-- Where the entries are read in a state with checking off, a switch that
is on makes everybody unknown. -/
theorem checkAcross_of_off {p q : Passwords} (hon : p.enabled = true)
    (hempty : q.published.current = ∅) (user : String) (password : Option String) :
    checkAcross p q user password = .error (.unknownUser user) := by
  simp [checkAcross, judge, hon, hempty]

/-- With checking off, everybody gets in. -/
theorem check_of_off {p : Passwords} (hoff : p.enabled = false) (user : String)
    (password : Option String) : p.check user password = .ok () := by
  simp [check, judge, hoff]

/-- A check of some user beside any reloads, after any others: the switch
is read after some of the steps that the reloads publish, and the entries
after some more. Either it says what a check alone says in the state
before the reloads, or after some of them; or it denies the user as
unknown, and checking is off in such a state. So with checking on in all
of them it is a check alone, and a user who gets in does so in one of
them. -/
theorem check_beside_reloads (past reloads : List (Attempt PasswordConfig))
    {before between after : List Publication}
    (hsteps : reloads.flatMap stepsOf = before ++ between ++ after) (user : String)
    (password : Option String) :
    let whole (i : Nat) := replay algorithm (past ++ reloads.take i)
    let atSwitch := before.foldl publish (replay algorithm past)
    let atEntries := between.foldl publish atSwitch
    let outcome := checkAcross atSwitch atEntries user password
    (∃ i ≤ reloads.length, outcome = (whole i).check user password
        ∨ ((whole i).enabled = false ∧ outcome = .error (.unknownUser user)))
      ∧ ((∀ i ≤ reloads.length, (whole i).enabled = true) →
          ∃ i ≤ reloads.length, outcome = (whole i).check user password)
      ∧ (outcome = .ok () → ∃ i ≤ reloads.length, (whole i).check user password = .ok ()) := by
  intro whole atSwitch atEntries outcome
  have hbefore : reloads.flatMap stepsOf = before ++ (between ++ after) := by
    rw [hsteps, List.append_assoc]
  have hentriesSteps : (before ++ between).foldl publish (replay algorithm past) = atEntries :=
    List.foldl_append ..
  obtain ⟨⟨i, hi, hswitch⟩, -⟩ := whole_of_steps algorithm past hbefore
  obtain ⟨-, j, hj, hentries⟩ := whole_of_steps algorithm past hsteps
  rw [hentriesSteps] at hentries
  have hsomewhere : ∃ i ≤ reloads.length, outcome = (whole i).check user password
      ∨ ((whole i).enabled = false ∧ outcome = .error (.unknownUser user)) := by
    cases hon : atSwitch.enabled with
    | false =>
        -- The check is over before the entries are read.
        refine ⟨i, hi, .inl ?_⟩
        rw [check_of_off (p := whole i) (hswitch.symm.trans hon)]
        simp [outcome, checkAcross, judge, hon]
    | true =>
        refine ⟨j, hj, ?_⟩
        cases hwhole : (whole j).enabled with
        | true =>
            left
            have halgorithm : atSwitch.algorithm = (whole j).algorithm :=
              (algorithm_foldl_publish before _).trans
                ((algorithm_replay ..).trans (algorithm_replay ..).symm)
            show judge _ _ atEntries.published.current user password = _
            rw [halgorithm, hon, hentries, check, hwhole]
        | false =>
            right
            refine ⟨rfl, checkAcross_of_off hon ?_ user password⟩
            rw [hentries]
            exact published_of_off algorithm hwhole
  refine ⟨hsomewhere, fun hon => ?_, fun hok => ?_⟩
  · obtain ⟨i, hi, halone | ⟨hoff, -⟩⟩ := hsomewhere
    · exact ⟨i, hi, halone⟩
    · rw [hon i hi] at hoff
      cases hoff
  · obtain ⟨i, hi, halone | ⟨-, hdenied⟩⟩ := hsomewhere
    · exact ⟨i, hi, halone.symm.trans hok⟩
    · rw [hok] at hdenied
      cases hdenied

/-- A file that grants a user without a password, replaced by another while
the check goes on. -/
theorem check_beside_reloads_of_one :
    let files (text : String) := (FileSystem.empty []).write "p" (Text.utf8 text)
    let config : PasswordConfig := { enabled := true, file := some "p" }
    let old : Attempt PasswordConfig := ⟨config, files "ann:x:false\n"⟩
    let new : Attempt PasswordConfig := ⟨config, files "bob:x:false\n"⟩
    let before : List Publication := [.enabled true]
    let after := (stepsOf new).tail
    [new].flatMap stepsOf = before ++ [] ++ after
      ∧ ∃ i ≤ 1, checkAcross (before.foldl publish (replay .md5 [old]))
            (before.foldl publish (replay .md5 [old])) "ann" none
          = (replay .md5 ([old] ++ [new].take i)).check "ann" none := by
  intro files config old new before after
  have hsteps : [new].flatMap stepsOf = before ++ [] ++ after := by
    obtain ⟨tail, htail, -⟩ := stepsOf_eq new
    simp [after, before, htail, new, config]
  refine ⟨hsteps, (check_beside_reloads .md5 [old] [new] hsteps "ann" none).2.1 ?_⟩
  intro i hi
  rw [enabled_replay]
  rcases Nat.le_one_iff_eq_zero_or_eq_one.mp hi with rfl | rfl <;> rfl

/-- Both windows are real. A check that reads the switch before checking is
switched off, and the entries after it, denies everybody, though everybody
gets in afterwards; and so does a check between the switch and the entries
of a reload that switches checking on, though everybody got in before. -/
theorem denied_between_publications (past : List (Attempt PasswordConfig))
    (a : Attempt PasswordConfig) (user : String) (password : Option String) :
    let p := replay algorithm past
    let q := replay algorithm (past ++ [a])
    (p.enabled = true → a.config.enabled = false →
        q.check user password = .ok ()
          ∧ checkAcross p q user password = .error (.unknownUser user))
      ∧ (p.enabled = false → a.config.enabled = true →
        p.check user password = .ok ()
          ∧ ∃ first rest, stepsOf a = first :: rest
            ∧ checkAcross (publish p first) (publish p first) user password
              = .error (.unknownUser user)) := by
  intro p q
  constructor
  · intro hon hoff
    have hq : q.enabled = false := by
      simp only [q, replay_concat, reload_off _ _ _ hoff, Observed.value_bind, Observed.value_pure]
    exact ⟨check_of_off hq user password,
      checkAcross_of_off hon (published_of_off algorithm hq) user password⟩
  · intro hoff hon
    obtain ⟨tail, htail, -⟩ := stepsOf_eq a
    refine ⟨check_of_off hoff user password, _, tail, htail, ?_⟩
    exact checkAcross_of_off (p := publish p (.enabled a.config.enabled)) hon
      (published_of_off algorithm hoff) user password

/-- A user who gets in before and after checking is switched off, and is
unknown on the way. -/
theorem denied_though_accepted_throughout :
    let files := (FileSystem.empty []).write "p" (Text.utf8 "ann:x:false\n")
    let on : Attempt PasswordConfig := ⟨{ enabled := true, file := some "p" }, files⟩
    let off : Attempt PasswordConfig := ⟨{}, files⟩
    let atSwitch := replay .md5 [on]
    let atEntries := (stepsOf off).foldl publish atSwitch
    (replay .md5 [on]).check "ann" none = .ok ()
      ∧ (replay .md5 [on, off]).check "ann" none = .ok ()
      ∧ checkAcross atSwitch atEntries "ann" none = .error (.unknownUser "ann") := by
  decide +kernel

end Passwords

end Warden
