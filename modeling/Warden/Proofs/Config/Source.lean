/-
When a source gives a configuration.

# Contents

A source may give anything at any time. Of the two kinds that there are,
a configuration in memory is always given, and a file gives one unless it
is broken in one of three ways (`ConfigSource.Broken`), and those are all
there are (`load_file_eq_error_iff`).

A service is made by a source that names a digest algorithm
(`ConfigSource.Founded`), and could be made again as long as it does
(`ConfigSource.Usable`). What a file gives has passed validation, so it is
always usable (`usable_file`); a configuration in memory is given
unvalidated, and usable if it was good once (`Founded.usable_fixed`).
-/
import Warden.Config.Decode

namespace Warden

variable {files : FileSystem} {path : String} {describe : String → String}

namespace ConfigSource

/-- Why a file gives no configuration: it cannot be read, its text is no
configuration, or the configuration has problems. -/
inductive Broken (files : FileSystem) (path : String) (describe : String → String) :
    ConfigError → Prop where
  | unreadable {cause : ReadError} (hread : files.readText path = .error cause) :
      Broken files path describe (.unreadable cause)
  | malformed {text : String} (hread : files.readText path = .ok text)
      (hdecode : (Toml.Document.read text).bind Config.ofTable = none) :
      Broken files path describe (@ConfigError.malformed (describe text))
  | invalid {text : String} {config : Config} (hread : files.readText path = .ok text)
      (hdecode : (Toml.Document.read text).bind Config.ofTable = some config)
      (hproblems : config.problems ≠ []) :
      Broken files path describe (.invalid config.problems)

/-- A source gives only configurations that name a digest algorithm. -/
def Usable (source : ConfigSource) : Prop :=
  ∀ files config, source.load files = .ok config →
    ∃ algorithm, Algorithm.ofName? config.password.digestAlgorithm = .ok algorithm

/-- A source gives, for some files, a configuration that names a digest
algorithm. -/
def Founded (source : ConfigSource) : Prop :=
  ∃ files config algorithm, source.load files = .ok config
    ∧ Algorithm.ofName? config.password.digestAlgorithm = .ok algorithm

end ConfigSource

namespace Config

/-- What validation says of a configuration is the list of its problems. -/
theorem validate_cases (c : Config) :
    (c.problems = [] ∧ c.validate = .ok ())
      ∨ (c.problems ≠ [] ∧ c.validate = .error c.problems) := by
  cases hproblems : c.problems with
  | nil => exact Or.inl ⟨rfl, by simp [validate, hproblems]⟩
  | cons problem rest => exact Or.inr ⟨by simp, by simp [validate, hproblems]⟩

theorem validate_eq_ok_iff {c : Config} : c.validate = .ok () ↔ c.problems = [] := by
  rcases c.validate_cases with ⟨hproblems, hvalid⟩ | ⟨hproblems, hvalid⟩
  · simp [hproblems, hvalid]
  · simp [hproblems, hvalid]

/-- A configuration without problems names a digest algorithm. -/
theorem digest_of_problems_eq_nil {c : Config} (h : c.problems = []) :
    ∃ algorithm, Algorithm.ofName? c.password.digestAlgorithm = .ok algorithm := by
  have hdigest : digestProblem c.password.digestAlgorithm = [] := by
    simp only [problems, List.append_eq_nil_iff] at h
    exact h.1.2
  cases hname : Algorithm.ofName? c.password.digestAlgorithm with
  | ok algorithm => exact ⟨algorithm, rfl⟩
  | error e => simp [digestProblem, hname] at hdigest

/-- So does every configuration that a file gives. -/
theorem digest_of_ofFile {c : Config} (h : ofFile files path describe = .ok c) :
    ∃ algorithm, Algorithm.ofName? c.password.digestAlgorithm = .ok algorithm := by
  unfold ofFile at h
  split at h
  case h_1 => cases h
  case h_2 text hread =>
    unfold ofText at h
    split at h
    case h_1 => cases h
    case h_2 decoded hdecode =>
      rcases decoded.validate_cases with ⟨hproblems, hvalid⟩ | ⟨hproblems, hvalid⟩
      · rw [hvalid] at h
        injection h with h
        exact h ▸ digest_of_problems_eq_nil hproblems
      · rw [hvalid] at h
        cases h

end Config

namespace ConfigSource

/-- A file that gives nothing is broken in one of the three ways. -/
theorem load_file_eq_error_iff {cause : ConfigError} :
    (file path describe).load files = .error cause ↔ Broken files path describe cause := by
  constructor
  · intro h
    have hfile : Config.ofFile files path describe = .error cause := h
    unfold Config.ofFile at hfile
    split at hfile
    case h_1 cause' hread =>
      injection hfile with hcause
      exact hcause ▸ .unreadable hread
    case h_2 text hread =>
      unfold Config.ofText at hfile
      split at hfile
      case h_1 hdecode =>
        injection hfile with hcause
        exact hcause ▸ .malformed hread hdecode
      case h_2 config hdecode =>
        rcases config.validate_cases with ⟨hproblems, hvalid⟩ | ⟨hproblems, hvalid⟩
        · rw [hvalid] at hfile
          cases hfile
        · rw [hvalid] at hfile
          injection hfile with hcause
          exact hcause ▸ .invalid hread hdecode hproblems
  · intro h
    cases h with
    | unreadable hread => simp [file, Config.ofFile, hread]
    | malformed hread hdecode => simp [file, Config.ofFile, hread, Config.ofText, hdecode]
    | @invalid text config hread hdecode hproblems =>
        rcases config.validate_cases with ⟨hnone, -⟩ | ⟨-, hvalid⟩
        · exact absurd hnone hproblems
        · simp [file, Config.ofFile, hread, Config.ofText, hdecode, hvalid]

/-- What a file gives was validated. -/
theorem usable_file (path : String) (describe : String → String) : (file path describe).Usable :=
  fun _ _ hload => Config.digest_of_ofFile hload

/-- A configuration in memory stays as it was. -/
theorem Founded.usable_fixed {config : Config} (h : (fixed config).Founded) :
    (fixed config).Usable := by
  obtain ⟨files, given, algorithm, hload, hname⟩ := h
  intro files' given' hload'
  injection hload with hgiven
  injection hload' with hgiven'
  exact ⟨algorithm, by rw [← hgiven', hgiven, hname]⟩

end ConfigSource

end Warden
