/-
What a reload of a policy tells, against what it does.

# Contents

What a reload attempts is said without any of its steps: each dataset of
the policy is loaded from its source, if the settings put it in use
(`Dataset.attempt?`). What the reload comes back with are the errors of
these loads (`result_reload_eq`); what it tells of a dataset are the
accounts of the one load of it, or of none (`accounts_reload`). The first
loads of a service are a reload of each policy (`accounts_initialLoad`),
and a refresh is one if there are settings (`accounts_refresh`).
-/
import Warden.Proofs.Dataset.Accounting
import Warden.Proofs.Service.Refresh

namespace Warden

open Observed

-- =========================================================== reloading a policy

namespace Groups

variable (config : GroupsConfig) (files : FileSystem) (g : Groups)

/-- The groups are loaded as every dataset is, from a roster of all records. -/
theorem load_eq :
    load config files
      = Dataset.groups.loadWith files config.file (fun _ c => .ok (Roster.ofRecords c.records))
          Roster.size := rfl

/-- What a reload of the groups tells is what its loading tells. -/
theorem notes_reload :
    (g.reload config files).notes = Dataset.groups.toldOf (load config files) := by
  simp only [reload, notes_bind, Dataset.toldOf]
  cases (load config files).value <;> simp

/-- A reload of the groups tells of the groups alone. -/
theorem concerns_reload : Concerns (· = .groups) (g.reload config files).notes := by
  rw [notes_reload]
  exact Dataset.concerns_toldOf (load_eq ..)

/-- A reload of the groups is accounted for as one attempt at their file. -/
theorem accounts_reload :
    Accounts .groups g.published.current.size
      (g.reload config files).value.2.published.current.size
      [Dataset.groups.source files config.file] (g.reload config files).notes := by
  rw [value_reload, notes_reload]
  exact Dataset.accounts_toldOf (load_eq ..) (value_load ..) g.published

end Groups

namespace Whitelist

variable (config : WhitelistConfig) (files : FileSystem) (w : Whitelist)

/-- The fixed list is loaded as every dataset is, but that it may not be
empty. -/
theorem loadFixed_eq :
    loadFixed config files
      = Dataset.fixedWhitelist.loadWith files config.fixedFile
          (fun path c =>
            let addresses : Names := (∅ : Names).insertMany (c.records.map (·.key))
            if addresses.isEmpty then .error (.emptyFixedWhitelist path) else .ok addresses)
          Std.TreeSet.size := by
  unfold loadFixed Dataset.loadWith
  congr 1
  funext found
  cases found with
  | error e => rfl
  | ok found => dsimp only; split <;> rfl

/-- The variable list is loaded as every dataset is. -/
theorem loadVariable_eq :
    loadVariable config files
      = Dataset.variableWhitelist.loadWith files config.variableFile
          (fun _ c => .ok (Roster.ofRecords c.records)) Roster.size := rfl

/-- Where checking addresses is on, both lists are loaded, the fixed one
first. -/
theorem notes_reload_on (hon : config.enabled = true) :
    (w.reload config files).notes
      = .event (.whitelistConfigured true)
          :: (Dataset.fixedWhitelist.toldOf (loadFixed config files)
            ++ Dataset.variableWhitelist.toldOf (loadVariable config files)) := by
  simp [reload, hon, Dataset.toldOf, log, note]

/-- A reload of the whitelist tells of its two lists alone. -/
theorem concerns_reload :
    Concerns (fun d => d = .fixedWhitelist ∨ d = .variableWhitelist)
      (w.reload config files).notes := by
  cases hon : config.enabled with
  | false =>
      rw [reload_off _ _ _ hon]
      exact .silent rfl rfl rfl concerns_nil
  | true =>
      rw [notes_reload_on _ _ _ hon]
      refine .silent rfl rfl rfl (.append ?_ ?_)
      · exact (Dataset.concerns_toldOf (loadFixed_eq ..)).mono fun _ => .inl
      · exact (Dataset.concerns_toldOf (loadVariable_eq ..)).mono fun _ => .inr

/-- Without a load while checking is off. -/
theorem accounts_reload_fixed :
    Accounts .fixedWhitelist w.fixed.current.size
      (w.reload config files).value.2.fixed.current.size
      (if config.enabled then [Dataset.fixedWhitelist.source files config.fixedFile] else [])
      (w.reload config files).notes := by
  cases hon : config.enabled with
  | false =>
      rw [reload_off _ _ _ hon]
      exact Accounts.silent rfl .nil
  | true =>
      rw [value_reload_on _ _ _ hon, notes_reload_on _ _ _ hon]
      have hfixed := Dataset.accounts_toldOf (loadFixed_eq config files)
        (value_loadFixed config files) w.fixed
      have hvariable := Dataset.concerns_toldOf (loadVariable_eq config files)
      exact Accounts.silent rfl
        (hfixed.append_silent (accounts_of_concerns hvariable (by decide) _))

/-- The variable list is attempted once if checking is on, else not at all. -/
theorem accounts_reload_variable :
    Accounts .variableWhitelist w.variableList.current.size
      (w.reload config files).value.2.variableList.current.size
      (if config.enabled then [Dataset.variableWhitelist.source files config.variableFile] else [])
      (w.reload config files).notes := by
  cases hon : config.enabled with
  | false =>
      rw [reload_off _ _ _ hon]
      exact Accounts.silent rfl .nil
  | true =>
      rw [value_reload_on _ _ _ hon, notes_reload_on _ _ _ hon]
      have hfixed := Dataset.concerns_toldOf (loadFixed_eq config files)
      have hvariable := Dataset.accounts_toldOf (loadVariable_eq config files)
        (value_loadVariable config files) w.variableList
      exact Accounts.silent rfl
        ((accounts_of_concerns hfixed (by decide) _).silent_append hvariable)

end Whitelist

namespace Passwords

variable (config : PasswordConfig) (files : FileSystem) (p : Passwords)

/-- The entries are loaded as every dataset is, the last one of a user
counting. -/
theorem load_eq :
    load config files
      = Dataset.passwords.loadWith files config.file
          (fun _ c => .ok (Credentials.ofRecords c.records)) Std.TreeMap.size := rfl

/-- Where checking passwords is on, the entries are loaded. -/
theorem notes_reload_on (hon : config.enabled = true) :
    (p.reload config files).notes
      = .event (.passwordsConfigured true)
          :: Dataset.passwords.toldOf (load config files) := by
  simp only [reload, hon, if_true, notes_bind, Dataset.toldOf]
  cases (load config files).value <;> simp [log, note]

/-- A reload of the passwords tells of them alone. -/
theorem concerns_reload : Concerns (· = .passwords) (p.reload config files).notes := by
  cases hon : config.enabled with
  | false =>
      rw [reload_off _ _ _ hon]
      exact .silent rfl rfl rfl (.cons rfl rfl concerns_nil)
  | true =>
      rw [notes_reload_on _ _ _ hon]
      exact .silent rfl rfl rfl (Dataset.concerns_toldOf (load_eq ..))

/-- Switching checking off publishes a dataset of size zero, without a load. -/
theorem accounts_reload :
    Accounts .passwords p.published.current.size
      (p.reload config files).value.2.published.current.size
      (if config.enabled then [Dataset.passwords.source files config.file] else [])
      (p.reload config files).notes := by
  cases hon : config.enabled with
  | false =>
      rw [reload_off _ _ _ hon]
      exact Accounts.silent rfl ⟨rfl, rfl, rfl, rfl, rfl⟩
  | true =>
      rw [value_reload_on _ _ _ hon, notes_reload_on _ _ _ hon]
      refine Accounts.silent rfl ?_
      exact Dataset.accounts_toldOf (load_eq ..) (value_load ..) p.published

end Passwords

-- ============================================================ any policy

namespace Dataset

/-- The policy that answers from a dataset. -/
def policy : Dataset → Policy
  | groups => .groups
  | fixedWhitelist | variableWhitelist => .whitelist
  | passwords => .passwords

/-- Whether a dataset is in use by some settings. -/
def isOn (config : Config) : Dataset → Bool
  | groups => true
  | fixedWhitelist | variableWhitelist => config.whitelist.enabled
  | passwords => config.password.enabled

/-- The file that some settings name for a dataset. -/
def file? (config : Config) : Dataset → Option String
  | groups => config.groups.file
  | fixedWhitelist => config.whitelist.fixedFile
  | variableWhitelist => config.whitelist.variableFile
  | passwords => config.password.file

/-- The load of a dataset in a reload of its policy: of the text that it
gives, or of an error, or none at all while it is not in use. -/
def attempt? (files : FileSystem) (config : Config) (d : Dataset) :
    Option (Except LoadError String) :=
  if d.isOn config then some (d.source files (d.file? config)) else none

end Dataset

/-- A dataset in use is attempted once, another one not at all. -/
theorem Dataset.toList_attempt? (files : FileSystem) (config : Config) (d : Dataset) :
    (d.attempt? files config).toList
      = if d.isOn config then [d.source files (d.file? config)] else [] := by
  unfold attempt?
  split <;> rfl

namespace Policy

def datasets : Policy → List Dataset
  | groups => [.groups]
  | whitelist => [.fixedWhitelist, .variableWhitelist]
  | passwords => [.passwords]

/-- The errors of the loads in a reload of a policy. -/
def refused (files : FileSystem) (config : Config) (p : Policy) : List LoadError :=
  p.datasets.flatMap fun d => (d.attempt? files config).toList.flatMap refusals

end Policy

namespace Service

variable (files : FileSystem) (config : Config) (s : Service) (p : Policy)

/-- How much of a dataset is published. -/
def size (s : Service) : Dataset → Nat
  | .groups => s.groups.published.current.size
  | .fixedWhitelist => s.whitelist.fixed.current.size
  | .variableWhitelist => s.whitelist.variableList.current.size
  | .passwords => s.passwords.published.current.size

/-- What is published of a dataset is what a text has. -/
def Holds (s : Service) (text : String) : Dataset → Prop
  | .groups => s.groups.published.current = Groups.rosterOf text
  | .fixedWhitelist => s.whitelist.fixed.current = Whitelist.fixedOf text
  | .variableWhitelist => s.whitelist.variableList.current = Whitelist.variableOf text
  | .passwords => s.passwords.published.current = Passwords.credentialsOf text

/-- A reload comes back with the errors of its loads. -/
theorem result_reload_eq :
    (s.reload files config p).value.1 = ReloadError.check (p.refused files config) := by
  cases p with
  | groups =>
      show (s.groups.reload config.groups files).value.1 = _
      rw [Groups.value_reload]
      simp [Policy.refused, Policy.datasets, Dataset.attempt?, Dataset.isOn, Dataset.file?]
  | whitelist =>
      show (s.whitelist.reload config.whitelist files).value.1 = _
      cases hon : config.whitelist.enabled with
      | false =>
          rw [Whitelist.reload_off _ _ _ hon]
          simp [Policy.refused, Policy.datasets, Dataset.attempt?, Dataset.isOn, hon,
            ReloadError.check]
      | true =>
          rw [Whitelist.value_reload_on _ _ _ hon]
          simp [Policy.refused, Policy.datasets, Dataset.attempt?, Dataset.isOn, Dataset.file?, hon]
  | passwords =>
      show (s.passwords.reload config.password files).value.1 = _
      cases hon : config.password.enabled with
      | false =>
          rw [Passwords.reload_off _ _ _ hon]
          simp [Policy.refused, Policy.datasets, Dataset.attempt?, Dataset.isOn, hon,
            ReloadError.check]
      | true =>
          rw [Passwords.value_reload_on _ _ _ hon]
          simp [Policy.refused, Policy.datasets, Dataset.attempt?, Dataset.isOn, Dataset.file?, hon]

/-- A load of a text publishes what the text has. -/
theorem holds_reload {d : Dataset} {text : String}
    (hload : d.attempt? files config = some (.ok text)) :
    (s.reload files config d.policy).value.2.Holds text d := by
  unfold Dataset.attempt? at hload
  split at hload
  case isFalse => cases hload
  case isTrue hon =>
    injection hload with hsource
    cases d with
    | groups =>
        show (s.groups.reload config.groups files).value.2.published.current = _
        rw [Groups.value_reload]
        exact congrArg (fun r => (s.groups.published.settle (r.map Groups.rosterOf)).current)
          hsource
    | fixedWhitelist =>
        show (s.whitelist.reload config.whitelist files).value.2.fixed.current = _
        rw [Whitelist.value_reload_on _ _ _ hon]
        exact congrArg (fun r => (s.whitelist.fixed.settle (r.map Whitelist.fixedOf)).current)
          hsource
    | variableWhitelist =>
        show (s.whitelist.reload config.whitelist files).value.2.variableList.current = _
        rw [Whitelist.value_reload_on _ _ _ hon]
        exact congrArg
          (fun r => (s.whitelist.variableList.settle (r.map Whitelist.variableOf)).current) hsource
    | passwords =>
        show (s.passwords.reload config.password files).value.2.published.current = _
        rw [Passwords.value_reload_on _ _ _ hon]
        exact congrArg
          (fun r => (s.passwords.published.settle (r.map Passwords.credentialsOf)).current) hsource

/-- A reload tells of the datasets of its policy alone. -/
theorem concerns_reload : Concerns (·.policy = p) (s.reload files config p).notes := by
  cases p with
  | groups =>
      refine .append (.mono (s.groups.concerns_reload config.groups files) ?_) concerns_nil
      rintro d rfl
      rfl
  | whitelist =>
      refine .append (.mono (s.whitelist.concerns_reload config.whitelist files) ?_) concerns_nil
      rintro d (rfl | rfl) <;> rfl
  | passwords =>
      refine .append (.mono (s.passwords.concerns_reload config.password files) ?_) concerns_nil
      rintro d rfl
      rfl

/-- A reload of one policy changes no size of another one. -/
theorem size_of_sameBut {s t : Service} {p : Policy} (hframe : SameBut p s t) {d : Dataset}
    (hd : d.policy ≠ p) : t.size d = s.size d := by
  cases d with
  | groups => exact congrArg (·.published.current.size) (hframe.groups hd.symm)
  | fixedWhitelist => exact congrArg (·.fixed.current.size) (hframe.whitelist hd.symm)
  | variableWhitelist => exact congrArg (·.variableList.current.size) (hframe.whitelist hd.symm)
  | passwords => exact congrArg (·.published.current.size) (hframe.passwords hd.symm)

/-- What a reload tells of each dataset is what it does to it. -/
theorem accounts_reload (d : Dataset) :
    Accounts d (s.size d) ((s.reload files config p).value.2.size d)
      (if d.policy = p then (d.attempt? files config).toList else [])
      (s.reload files config p).notes := by
  by_cases hd : d.policy = p
  case neg =>
    rw [if_neg hd, size_of_sameBut (sameBut_reload files config s p) hd]
    exact accounts_of_concerns (concerns_reload files config s p) hd _
  case pos =>
    subst hd
    rw [if_pos rfl, Dataset.toList_attempt?]
    cases d with
    | groups => exact .append_silent (s.groups.accounts_reload ..) .nil
    | fixedWhitelist => exact .append_silent (s.whitelist.accounts_reload_fixed ..) .nil
    | variableWhitelist => exact .append_silent (s.whitelist.accounts_reload_variable ..) .nil
    | passwords => exact .append_silent (s.passwords.accounts_reload ..) .nil

/-- The first loads are an attempt at each dataset. -/
theorem accounts_initialLoad (d : Dataset) :
    Accounts d (s.size d) ((initialLoad files config s).value.size d)
      (d.attempt? files config).toList (initialLoad files config s).notes := by
  let s₁ := (s.reload files config .groups).value.2
  let s₂ := (s₁.reload files config .whitelist).value.2
  have h₁ := accounts_reload files config s .groups d
  have h₂ := accounts_reload files config s₁ .whitelist d
  have h₃ := accounts_reload files config s₂ .passwords d
  have hall := h₁.append (h₂.append (h₃.append_silent .nil))
  have hloads : ((if d.policy = .groups then (d.attempt? files config).toList else [])
      ++ ((if d.policy = .whitelist then (d.attempt? files config).toList else [])
        ++ if d.policy = .passwords then (d.attempt? files config).toList else []))
      = (d.attempt? files config).toList := by
    cases d <;> simp [Dataset.policy]
  rw [hloads] at hall
  exact hall

theorem concerns_initialLoad :
    Concerns (fun _ => True) (initialLoad files config s).notes := by
  have hany (s : Service) (p : Policy) :
      Concerns (fun _ => True) (s.reload files config p).notes :=
    (concerns_reload files config s p).mono fun _ _ => trivial
  exact .append (hany ..) (.append (hany ..) (.append (hany ..) concerns_nil))

variable {config}

/-- Before it reloads, a refresh tells of no dataset. -/
theorem concerns_remarks : Concerns (fun _ => False) (s.remarks config p) := by
  cases p with
  | groups => exact concerns_nil
  | whitelist => exact concerns_nil
  | passwords =>
      show Concerns _ (if _ then _ else _)
      split
      case isTrue => exact .silent rfl rfl rfl concerns_nil
      case isFalse => exact concerns_nil

/-- A refresh tells of the datasets of its policy alone. -/
theorem concerns_refresh : Concerns (·.policy = p) (s.refresh files p).notes := by
  cases hload : s.source.load files with
  | error cause =>
      rw [refresh_of_load_eq_error files hload]
      exact concerns_nil
  | ok config =>
      have hnotes : (s.refresh files p).notes
          = s.remarks config p ++ (s.reload files config p).notes := by
        simp [refresh, hload, notesOf]
      rw [hnotes]
      exact .append ((concerns_remarks s p).mono fun _ h => h.elim)
        (concerns_reload files config s p)

/-- A refresh attempts what a reload by the settings of the source does. -/
theorem accounts_refresh (d : Dataset) :
    Accounts d (s.size d) ((s.refresh files p).value.2.size d)
      (if d.policy = p then
        ((s.source.load files).toOption.bind (Dataset.attempt? files · d)).toList
      else [])
      (s.refresh files p).notes := by
  cases hload : s.source.load files with
  | error cause =>
      have hloads : (if d.policy = p then
          ((Except.error cause : Except ConfigError Config).toOption.bind
            (Dataset.attempt? files · d)).toList
          else []) = [] := by split <;> rfl
      rw [refresh_of_load_eq_error files hload, hloads]
      exact .nil
  | ok config =>
      have hnotes : (s.refresh files p).notes
          = s.remarks config p ++ (s.reload files config p).notes := by
        simp [refresh, hload, notesOf]
      rw [hnotes, value_refresh_of_load_eq_ok files hload]
      exact .silent_append (accounts_of_concerns (concerns_remarks s p) id _)
        (accounts_reload files config s p d)

end Service

end Warden
