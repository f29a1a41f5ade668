/-
The passwords over whole histories of reloads.

# Contents

As for the whitelist, a reload is first brought into closed form: with
checking on, the entries settle by their source (`value_reload_on`);
with checking off they are forgotten, and no file is read (`reload_off`).

# No entry comes back

Forgetting is what makes the history law differ from the whitelist's.
Only the reloads since checking was last switched off count
(`sinceOff`), so the entries published now were loaded after that moment
or there are none (`replay_since_off`). An entry that was withdrawn by
switching checking off is never used again without a new load.
-/
import Mathlib.Data.List.DropRight
import Mathlib.Data.List.Induction
import Warden.Policy.Passwords
import Warden.Proofs.Dataset.Source
import Warden.Proofs.Run

namespace Warden

namespace Passwords

variable (config : PasswordConfig) (files : FileSystem) (p : Passwords) (algorithm : Algorithm)

-- ============================================================== one load

/-- The entries of a password file's text. -/
def credentialsOf (text : String) : Credentials :=
  Credentials.ofRecords (scan (.fields ':' 3) text).records

/-- A load gives the entries of its source's text. -/
theorem value_load :
    (load config files).value
      = (Dataset.passwords.source files config.file).map credentialsOf := by
  rcases Dataset.passwords.fetch_cases files config.file with
    ⟨e, hfetch, hsource⟩ | ⟨path, text, hfetch, hsource⟩
  · simp [load, hfetch, hsource, Except.map]
  · simp [load, hfetch, hsource, Except.map, credentialsOf, Dataset.layout]

-- ============================================================ one reload

/-- With checking on, the entries settle by their source. -/
theorem value_reload_on (hon : config.enabled = true) :
    (p.reload config files).value
      = (ReloadError.check (refusals (Dataset.passwords.source files config.file)),
          { p with
            enabled := true
            published := p.published.settle
              ((Dataset.passwords.source files config.file).map credentialsOf) }) := by
  simp only [reload, hon, if_true, Observed.value_bind, value_load]
  cases Dataset.passwords.source files config.file <;> rfl

/-- With checking off, the entries are forgotten, and no file is read. -/
theorem reload_off (hoff : config.enabled = false) :
    p.reload config files
      = (do
          Observed.log (.passwordsConfigured false)
          Observed.count (.published .passwords 0)
          pure (.ok (), { p with enabled := false, published := .empty })) := by
  simp [reload, hoff, publish, Slot.clear]

/-- No reload touches the digest algorithm. -/
theorem algorithm_reload : (p.reload config files).value.2.algorithm = p.algorithm := by
  cases hon : config.enabled with
  | false => rw [reload_off _ _ _ hon]
  | true => rw [value_reload_on _ _ _ hon]

/-- How a reload ends does not depend on what was published before. -/
theorem result_reload (p q : Passwords) :
    (p.reload config files).value.1 = (q.reload config files).value.1 := by
  cases hon : config.enabled with
  | false => rw [reload_off _ _ p hon, reload_off _ _ q hon]
  | true => rw [value_reload_on _ _ p hon, value_reload_on _ _ q hon]

/-- Nor do the answers after a reload that succeeded, if the digests are
of one algorithm. -/
theorem check_reload (p q : Passwords) (halgorithm : p.algorithm = q.algorithm)
    (hok : (p.reload config files).value.1 = .ok ()) :
    (p.reload config files).value.2.check = (q.reload config files).value.2.check := by
  cases hon : config.enabled with
  | false => rw [reload_off _ _ p hon, reload_off _ _ q hon]
  | true =>
      rw [value_reload_on _ _ p hon, ReloadError.check_eq_ok_iff, refusals_eq_nil_iff] at hok
      obtain ⟨text, hsource⟩ := hok
      rw [value_reload_on _ _ p hon, value_reload_on _ _ q hon, hsource, halgorithm]
      rfl

-- ======================================================= whole histories

/-- The passwords after some reloads, from ones that never were reloaded. -/
def replay (past : List (Attempt PasswordConfig)) : Passwords :=
  past.foldl (fun p a => (p.reload a.config a.files).value.2) (new algorithm)

/-- The reloads since checking was last switched off. -/
def sinceOff (past : List (Attempt PasswordConfig)) : List (Attempt PasswordConfig) :=
  past.rtakeWhile (·.config.enabled)

/-- The text that a reload with checking on accepts, if any. -/
def text? (a : Attempt PasswordConfig) : Option String :=
  (Dataset.passwords.source a.files a.config.file).toOption

theorem replay_concat (past : List (Attempt PasswordConfig)) (a : Attempt PasswordConfig) :
    replay algorithm (past ++ [a])
      = ((replay algorithm past).reload a.config a.files).value.2 := by
  simp [replay]

/-- The switch is that of the last settings. -/
theorem enabled_replay (past : List (Attempt PasswordConfig)) :
    (replay algorithm past).enabled = (past.map (·.config.enabled)).getLastD false := by
  rw [← List.filterMap_eq_map]
  refine foldl_eq_getLastD Passwords.enabled (fun p a => ?_) past (new algorithm)
  cases hon : a.config.enabled with
  | false => simp [reload_off _ _ _ hon, hon]
  | true => simp [value_reload_on _ _ _ hon, hon]

/-- The entries are those of the last text accepted since checking was
switched off. The induction is on the last reload: one that switches
checking off leaves nothing on either side. -/
theorem published_replay (past : List (Attempt PasswordConfig)) :
    (replay algorithm past).published.current
      = (((sinceOff past).filterMap text?).map credentialsOf).getLastD ∅ := by
  induction past using List.reverseRecOn with
  | nil => rfl
  | append_singleton past a ih =>
      rw [replay_concat]
      cases hon : a.config.enabled with
      | false =>
          have hsince : sinceOff (past ++ [a]) = [] :=
            List.rtakeWhile_concat_neg _ _ _ (by simp [hon])
          rw [reload_off _ _ _ hon, hsince]
          rfl
      | true =>
          have hsince : sinceOff (past ++ [a]) = sinceOff past ++ [a] :=
            List.rtakeWhile_concat_pos _ _ _ hon
          rw [value_reload_on _ _ _ hon, hsince, List.filterMap_append, List.map_append]
          cases hsource : Dataset.passwords.source a.files a.config.file with
          | error e =>
              have htext : text? a = none := by simp [text?, hsource, Except.toOption]
              simpa [Except.map, htext] using ih
          | ok text =>
              have htext : text? a = some text := by simp [text?, hsource, Except.toOption]
              simp [Except.map, htext]

/-- While checking is off, no reload counts. -/
theorem sinceOff_eq_nil {past : List (Attempt PasswordConfig)}
    (hoff : (replay algorithm past).enabled = false) : sinceOff past = [] := by
  rw [enabled_replay] at hoff
  rcases past.eq_nil_or_concat with rfl | ⟨before, a, rfl⟩
  · rfl
  · rw [List.concat_eq_append] at hoff ⊢
    rw [List.map_append, List.map_singleton, List.getLastD_concat] at hoff
    exact List.rtakeWhile_concat_neg _ _ _ (by simp [hoff])

/-- Without an entry, nobody's password is right. -/
theorem check_of_empty (hon : p.enabled = true) (hempty : p.published.current = ∅)
    (user : String) (password : Option String) :
    p.check user password = .error (.unknownUser user) := by
  simp [check, judge, hon, hempty]

/-- After any reloads, whatever the files did meanwhile: the switch is
that of the last settings, and the entries are those of the last text
accepted since checking was switched off, or none. So there is no entry
while checking is off, and none right after it is switched on again:
until a load succeeds, everybody is unknown. The next reload, if it
fails, still sets the switch and leaves the entries; if it switches
checking off, it succeeds and reads nothing. -/
theorem replay_since_off (past : List (Attempt PasswordConfig))
    (next : Attempt PasswordConfig) :
    let p := replay algorithm past
    p.enabled = (past.map (·.config.enabled)).getLastD false
      ∧ p.published.current = (((sinceOff past).filterMap text?).map credentialsOf).getLastD ∅
      ∧ (p.enabled = false → p.published.current = ∅)
      ∧ (p.enabled = true → (∀ a ∈ sinceOff past, text? a = none) →
          ∀ user password, p.check user password = .error (.unknownUser user))
      ∧ (next.config.enabled = true →
          ∀ e, Dataset.passwords.source next.files next.config.file = .error e →
            (p.reload next.config next.files).value = (.error ⟨[e]⟩, { p with enabled := true }))
      ∧ (next.config.enabled = false →
          (p.reload next.config next.files).value.1 = .ok ()
            ∧ ∀ files, p.reload next.config files = p.reload next.config next.files) := by
  intro p
  have hpublished : p.published.current
      = (((sinceOff past).filterMap text?).map credentialsOf).getLastD ∅ :=
    published_replay algorithm past
  refine ⟨enabled_replay algorithm past, hpublished, ?_, ?_, ?_, ?_⟩
  · intro hoff
    rw [hpublished, sinceOff_eq_nil algorithm hoff]
    rfl
  · intro hon hnone user password
    have hempty : p.published.current = ∅ := by
      rw [hpublished, List.filterMap_eq_nil_iff.mpr hnone]
      rfl
    exact check_of_empty p hon hempty user password
  · intro hon e hsource
    rw [value_reload_on _ _ _ hon, hsource]
    rfl
  · intro hoff
    rw [reload_off _ _ _ hoff]
    refine ⟨rfl, fun files => ?_⟩
    rw [reload_off _ _ _ hoff]

end Passwords

end Warden
