/-
The whitelist over whole histories of reloads.

# Contents

A reload is first brought into closed form: with checking on, the two
lists settle independently, each by its own source, and what the reload
complains of is what the two sources are refused for (`value_reload_on`);
with checking off only the switch changes (`reload_off`).

From there the law of a whole history is read off part by part
(`replay_holds_latest`): the switch is that of the last settings, and
each list is the one made of the text that was last accepted for it, no
matter what happened to the other list or to the switch since.
-/
import Warden.Policy.Whitelist
import Warden.Proofs.Dataset.Source
import Warden.Proofs.Run

namespace Warden

namespace Whitelist

variable (config : WhitelistConfig) (files : FileSystem) (w : Whitelist)

-- ============================================================== one load

/-- The addresses of a fixed list's text. -/
def fixedOf (text : String) : Names :=
  (∅ : Names).insertMany ((scan .list text).records.map (·.key))

/-- The users of each address in a variable list's text. -/
def variableOf (text : String) : Roster :=
  Roster.ofRecords (scan (.keyValues ':') text).records

/-- The fixed list's load gives the addresses of its source's text. -/
theorem value_loadFixed :
    (loadFixed config files).value
      = (Dataset.fixedWhitelist.source files config.fixedFile).map fixedOf := by
  rcases Dataset.fixedWhitelist.fetch_cases files config.fixedFile with
    ⟨e, hfetch, hsource⟩ | ⟨path, text, hfetch, hsource⟩
  · simp [loadFixed, hfetch, hsource, Except.map]
  · simp only [Dataset.layout, true_and] at hfetch hsource
    by_cases hrecords : (scan .list text).records = []
    · simp [loadFixed, hfetch, hsource, hrecords, Except.map]
    · simp [loadFixed, hfetch, hsource, hrecords, fixedOf, Except.map]

/-- The variable list's load gives the users of its source's text. -/
theorem value_loadVariable :
    (loadVariable config files).value
      = (Dataset.variableWhitelist.source files config.variableFile).map variableOf := by
  rcases Dataset.variableWhitelist.fetch_cases files config.variableFile with
    ⟨e, hfetch, hsource⟩ | ⟨path, text, hfetch, hsource⟩
  · simp [loadVariable, hfetch, hsource, Except.map]
  · simp [loadVariable, hfetch, hsource, Except.map, variableOf, Dataset.layout]

-- ============================================================ one reload

/-- With checking on, each list settles by its own source. -/
theorem value_reload_on (hon : config.enabled = true) :
    (w.reload config files).value
      = (ReloadError.check
            (refusals (Dataset.fixedWhitelist.source files config.fixedFile)
              ++ refusals (Dataset.variableWhitelist.source files config.variableFile)),
          { enabled := true
            fixed := w.fixed.settle
              ((Dataset.fixedWhitelist.source files config.fixedFile).map fixedOf)
            variableList := w.variableList.settle
              ((Dataset.variableWhitelist.source files config.variableFile).map variableOf) }) := by
  simp only [reload, hon, if_true, Observed.value_bind, Observed.value_pure, value_loadFixed,
    value_loadVariable]
  cases Dataset.fixedWhitelist.source files config.fixedFile <;>
    cases Dataset.variableWhitelist.source files config.variableFile <;> rfl

/-- With checking off, only the switch is set, and no file is read. -/
theorem reload_off (hoff : config.enabled = false) :
    w.reload config files
      = (do
          Observed.log (.whitelistConfigured false)
          pure (.ok (), { w with enabled := false })) := by
  simp [reload, hoff, publish]

/-- How a reload ends does not depend on what was published before. -/
theorem result_reload (w v : Whitelist) :
    (w.reload config files).value.1 = (v.reload config files).value.1 := by
  cases hon : config.enabled with
  | false => rw [reload_off _ _ w hon, reload_off _ _ v hon]; rfl
  | true => rw [value_reload_on _ _ w hon, value_reload_on _ _ v hon]

/-- Nor do the decisions after a reload that succeeded. While checking is
off the two lists may differ, but then nobody asks them. -/
theorem check_reload (w v : Whitelist) (hok : (w.reload config files).value.1 = .ok ()) :
    (w.reload config files).value.2.check = (v.reload config files).value.2.check := by
  cases hon : config.enabled with
  | false =>
      rw [reload_off _ _ w hon, reload_off _ _ v hon]
      rfl
  | true =>
      rw [value_reload_on _ _ w hon] at hok
      rw [ReloadError.check_eq_ok_iff, List.append_eq_nil_iff, refusals_eq_nil_iff,
        refusals_eq_nil_iff] at hok
      obtain ⟨⟨fixed, hfixed⟩, ⟨variableList, hvariable⟩⟩ := hok
      rw [value_reload_on _ _ w hon, value_reload_on _ _ v hon, hfixed, hvariable]
      rfl

-- ======================================================= whole histories

/-- The whitelist after some reloads, from one that never was reloaded. -/
def replay (past : List (Attempt WhitelistConfig)) : Whitelist :=
  past.foldl (fun w a => (w.reload a.config a.files).value.2) new

/-- The text that a reload accepts for the fixed list, if any. -/
def fixedText? (a : Attempt WhitelistConfig) : Option String :=
  if a.config.enabled then (Dataset.fixedWhitelist.source a.files a.config.fixedFile).toOption
  else none

/-- The text that a reload accepts for the variable list, if any. -/
def variableText? (a : Attempt WhitelistConfig) : Option String :=
  if a.config.enabled then
    (Dataset.variableWhitelist.source a.files a.config.variableFile).toOption
  else none

/-- One reload sets the switch, and either list only by a text that it
accepts for that list. -/
theorem parts_reload (a : Attempt WhitelistConfig) :
    let next := (w.reload a.config a.files).value.2
    next.enabled = a.config.enabled
      ∧ next.fixed.current = ((fixedText? a).map fixedOf).getD w.fixed.current
      ∧ next.variableList.current
          = ((variableText? a).map variableOf).getD w.variableList.current := by
  cases hon : a.config.enabled with
  | false => simp [reload_off _ _ _ hon, fixedText?, variableText?, hon]
  | true =>
      simp only [value_reload_on _ _ _ hon, fixedText?, variableText?, hon, if_true]
      refine ⟨trivial, ?_, ?_⟩
      · cases Dataset.fixedWhitelist.source a.files a.config.fixedFile <;> rfl
      · cases Dataset.variableWhitelist.source a.files a.config.variableFile <;> rfl

/-- After any reloads, whatever the files did meanwhile: the switch is
that of the last settings; the fixed list is the one of the last text
that was accepted for it, and so is the variable list, each for itself.
The next reload succeeds if it switches checking off, reading nothing,
or if both lists have a source; else it names the refusals of exactly
the lists that have none. -/
theorem replay_holds_latest (past : List (Attempt WhitelistConfig))
    (next : Attempt WhitelistConfig) :
    let w := replay past
    let answer := (w.reload next.config next.files).value.1
    let fixed := Dataset.fixedWhitelist.source next.files next.config.fixedFile
    let variableList := Dataset.variableWhitelist.source next.files next.config.variableFile
    w.enabled = (past.map (·.config.enabled)).getLastD false
      ∧ w.fixed.current = ((past.filterMap fixedText?).map fixedOf).getLastD ∅
      ∧ w.variableList.current = ((past.filterMap variableText?).map variableOf).getLastD ∅
      ∧ (answer = .ok () ↔
          next.config.enabled = false
            ∨ (∃ text, fixed = .ok text) ∧ ∃ text, variableList = .ok text)
      ∧ (∀ e, answer = .error e → e.failures = refusals fixed ++ refusals variableList)
      ∧ (next.config.enabled = false →
          ∀ files, w.reload next.config files = w.reload next.config next.files) := by
  intro w answer fixed variableList
  refine ⟨?_, ?_, ?_, ?_, ?_, ?_⟩
  · rw [← List.filterMap_eq_map]
    exact foldl_eq_getLastD Whitelist.enabled
      (fun w a => (parts_reload w a).1) past new
  · rw [List.map_filterMap]
    exact foldl_eq_getLastD (fun w => w.fixed.current)
      (fun w a => (parts_reload w a).2.1) past new
  · rw [List.map_filterMap]
    exact foldl_eq_getLastD (fun w => w.variableList.current)
      (fun w a => (parts_reload w a).2.2) past new
  · cases hon : next.config.enabled with
    | false => simp [answer, reload_off _ _ _ hon]
    | true =>
        have hanswer : answer = ReloadError.check (refusals fixed ++ refusals variableList) := by
          simp only [answer, value_reload_on _ _ _ hon, fixed, variableList]
        rw [hanswer, ReloadError.check_eq_ok_iff, List.append_eq_nil_iff, refusals_eq_nil_iff,
          refusals_eq_nil_iff]
        simp
  · intro e he
    cases hon : next.config.enabled with
    | false => simp [answer, reload_off _ _ _ hon] at he
    | true =>
        simp only [answer, value_reload_on _ _ _ hon] at he
        exact ReloadError.failures_of_check he
  · intro hoff files
    rw [reload_off _ _ _ hoff, reload_off _ _ _ hoff]

end Whitelist

end Warden
