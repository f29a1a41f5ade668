/-
The text that a dataset is loaded from.

# Contents

Whatever a policy makes of a dataset, it makes of one text: that of the
file its setting names. `Dataset.source` is this text, or the reason why
there is none, for all four datasets alike; it is said without any of
the steps that loading takes and without what loading reports.
`fetch_cases` ties it to those steps, once for every policy.

What is published stays as it is when a load fails (`Slot.settle`), and
what a reload complains of is what its loads failed for (`refusals`).
-/
import Warden.Dataset.Load
import Warden.Slot

namespace Warden

variable {α : Type}

-- ============================================================= the source

/-- The text that a dataset is loaded from, or why there is none: no file
is named, it cannot be read as text, or it is a fixed whitelist without
an address. -/
def Dataset.source (d : Dataset) (files : FileSystem) (file : Option String) :
    Except LoadError String :=
  match file with
  | none => .error (.notConfigured d.key)
  | some path =>
    if path = "" then .error (.notConfigured d.key)
    else
      match files.readText path with
      | .error cause => .error (.sourceUnavailable path cause)
      | .ok text =>
        if d = .fixedWhitelist ∧ (scan d.layout text).records = [] then
          .error (.emptyFixedWhitelist path)
        else .ok text

/-- A fetch stops for what is wrong with the source, or it gives the
source's text, scanned; only then can the fixed whitelist be empty. -/
theorem Dataset.fetch_cases (d : Dataset) (files : FileSystem) (file : Option String) :
    (∃ e, d.fetch files file = .error e ∧ d.source files file = .error e)
      ∨ ∃ path text, d.fetch files file = .ok (path, scan d.layout text)
          ∧ d.source files file
            = if d = .fixedWhitelist ∧ (scan d.layout text).records = [] then
                .error (.emptyFixedWhitelist path)
              else .ok text := by
  cases file with
  | none => exact Or.inl ⟨_, rfl, rfl⟩
  | some path =>
      by_cases hpath : path = ""
      · refine Or.inl ⟨.notConfigured d.key, ?_, ?_⟩
        · simp [fetch, path?, hpath, bind, Except.bind]
        · simp [source, hpath]
      · cases hread : files.readText path with
        | error cause =>
            refine Or.inl ⟨.sourceUnavailable path cause, ?_, ?_⟩
            · simp [fetch, path?, hpath, hread, bind, Except.bind]
            · simp [source, hpath, hread]
        | ok text =>
            refine Or.inr ⟨path, text, ?_, ?_⟩
            · simp [fetch, path?, hpath, hread, bind, Except.bind]
            · simp [source, hpath, hread]

/-- A setting names a file, and the file has this text. -/
def FileSystem.Supplies (files : FileSystem) (file : Option String) (text : String) : Prop :=
  ∃ path, file = some path ∧ path ≠ "" ∧ files.readText path = .ok text

/-- A dataset is loaded from the text that its setting supplies, but for a
fixed whitelist without an address. -/
theorem Dataset.source_eq_ok_iff {d : Dataset} {files : FileSystem} {file : Option String}
    {text : String} :
    d.source files file = .ok text
      ↔ files.Supplies file text ∧ (d = .fixedWhitelist → (scan d.layout text).records ≠ []) := by
  unfold source FileSystem.Supplies
  cases file with
  | none => simp
  | some path =>
      by_cases hpath : path = ""
      · simp [hpath]
      · cases hread : files.readText path with
        | error cause => simp [hpath, hread]
        | ok found =>
            have hsupplied : (∃ p, some path = some p ∧ p ≠ "" ∧ files.readText p = .ok text)
                ↔ found = text := by simp [hpath, hread]
            simp only [hpath, if_false, hread, hsupplied]
            split
            case isTrue hempty =>
              simp only [reduceCtorEq, false_iff]
              rintro ⟨rfl, hrecords⟩
              exact hrecords hempty.1 hempty.2
            case isFalse hfull =>
              rw [Except.ok.injEq]
              constructor
              · rintro rfl
                exact ⟨rfl, fun hd hrecords => hfull ⟨hd, hrecords⟩⟩
              · exact And.left

-- ===================================================== loads and failures

/-- What a slot holds after a load: the loaded value, or what it held. -/
def Slot.settle (s : Slot α) : Except LoadError α → Slot α
  | .ok a => ⟨a⟩
  | .error _ => s

@[simp] theorem Slot.settle_ok (s : Slot α) (a : α) : s.settle (.ok a) = ⟨a⟩ := rfl

@[simp] theorem Slot.settle_error (s : Slot α) (e : LoadError) : s.settle (.error e) = s := rfl

/-- Why a load failed, if it did. -/
def refusals : Except LoadError α → List LoadError
  | .ok _ => []
  | .error e => [e]

@[simp] theorem refusals_ok (a : α) : refusals (.ok a : Except LoadError α) = [] := rfl

@[simp] theorem refusals_error (e : LoadError) :
    refusals (.error e : Except LoadError α) = [e] := rfl

/-- Nothing is refused exactly if there is a result. -/
theorem refusals_eq_nil_iff (r : Except LoadError α) :
    refusals r = [] ↔ ∃ a, r = .ok a := by
  cases r <;> simp

/-- A reload succeeds if nothing failed, and else names all that did. -/
theorem ReloadError.check_eq_ok_iff (failures : List LoadError) :
    ReloadError.check failures = .ok () ↔ failures = [] := by
  cases failures <;> simp [ReloadError.check]

/-- A reload that fails tells all its failures. -/
theorem ReloadError.failures_of_check {failures : List LoadError} {e : ReloadError}
    (h : ReloadError.check failures = .error e) : e.failures = failures := by
  unfold ReloadError.check at h
  split at h
  · cases h
  · injection h with h
    rw [← h]

end Warden
