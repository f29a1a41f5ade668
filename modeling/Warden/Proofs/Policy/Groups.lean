/-
The group mapping after a reload.

# Contents

There is no switch, so one closed form says all that a reload does: the
roster settles by its source, and the reload fails for what the source
is refused for (`value_reload`). So it succeeds if its setting supplies a
text, and else leaves the mapping as it is.
-/
import Warden.Policy.Groups
import Warden.Proofs.Dataset.Source

namespace Warden

namespace Groups

variable (config : GroupsConfig) (files : FileSystem) (g : Groups)

/-- The groups of each user in a group file's text. -/
def rosterOf (text : String) : Roster :=
  Roster.ofRecords (scan (.keyValues '=') text).records

/-- A load gives the roster of its source's text. -/
theorem value_load :
    (load config files).value = (Dataset.groups.source files config.file).map rosterOf := by
  rcases Dataset.groups.fetch_cases files config.file with
    ⟨e, hfetch, hsource⟩ | ⟨path, text, hfetch, hsource⟩
  · simp [load, hfetch, hsource, Except.map]
  · simp [load, hfetch, hsource, Except.map, rosterOf, Dataset.layout]

/-- The roster settles by its source. -/
theorem value_reload :
    (g.reload config files).value
      = (ReloadError.check (refusals (Dataset.groups.source files config.file)),
          ⟨g.published.settle ((Dataset.groups.source files config.file).map rosterOf)⟩) := by
  simp only [reload, Observed.value_bind, value_load]
  cases Dataset.groups.source files config.file <;> rfl

/-- How a reload ends does not depend on what was published before, and
what is published after one that succeeded does not either. -/
theorem reload_eq (g k : Groups) :
    (g.reload config files).value.1 = (k.reload config files).value.1
      ∧ ((g.reload config files).value.1 = .ok () →
          (g.reload config files).value.2 = (k.reload config files).value.2) := by
  rw [value_reload _ _ g, value_reload _ _ k]
  refine ⟨rfl, fun hok => ?_⟩
  rw [ReloadError.check_eq_ok_iff, refusals_eq_nil_iff] at hok
  obtain ⟨text, hsource⟩ := hok
  rw [hsource]
  rfl

/-- The groups have no condition of their own: any text that is supplied
will do. -/
theorem source_eq_ok_iff {file : Option String} {text : String} :
    Dataset.groups.source files file = .ok text ↔ files.Supplies file text := by
  simp [Dataset.source_eq_ok_iff]

/-- A reload publishes the roster of the text that it read, if it read one. -/
theorem current_reload :
    (g.reload config files).value.2.published.current
      = ((Dataset.groups.source files config.file).toOption.map rosterOf).getD
          g.published.current := by
  rw [value_reload]
  cases Dataset.groups.source files config.file <;> rfl

/-- A reload of the groups succeeds if a text is supplied. -/
theorem reload_eq_ok_iff :
    (g.reload config files).value.1 = .ok () ↔ ∃ text, files.Supplies config.file text := by
  rw [value_reload]
  simp only [ReloadError.check_eq_ok_iff, refusals_eq_nil_iff, source_eq_ok_iff]

/-- A reload that fails leaves the mapping as it is. -/
theorem reload_of_ne_ok (hfailed : (g.reload config files).value.1 ≠ .ok ()) :
    (g.reload config files).value.2 = g := by
  rw [value_reload] at hfailed ⊢
  cases hsource : Dataset.groups.source files config.file with
  | error e => rfl
  | ok text =>
      rw [hsource] at hfailed
      exact absurd rfl hfailed

end Groups

end Warden
