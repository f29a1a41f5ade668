/-
Counters and gauges, and the text in which they are exposed.

# Contents

A `Series` is a name with labels. `Metrics` gives a number to every
series that was ever touched: a counter grows with its measures, a gauge
is the last one. Refresh commands that named no registered handler share
one label, so that callers cannot make series.

`Metrics.lines` writes one line for each text of a series, sorted. Escaping
can give two identifiers one text: the series touched last speaks for it.
-/
import Warden.Journal

namespace Warden

/-- A name with labels. -/
inductive Series where
  | reloads (dataset : Dataset) (success : Bool)
  | entries (dataset : Dataset)
  | invalidLines (dataset : Dataset)
  | commands (identifier : String) (status : Int)
deriving DecidableEq, Repr

/-- The label of commands that named no registered handler. -/
def unknownLabel : String := "unknown"

namespace Series

/-- The characters of a label value as they stand between quotes. A
backslash is doubled, unless it already escapes a backslash or a quote;
`held` tells that one was just read and is not written yet. -/
def escape (held : Bool) : List Char → List Char
  | [] => if held then ['\\', '\\'] else []
  | '\n' :: r => '\\' :: 'n' :: escape held r
  | '"' :: r => '\\' :: '"' :: escape false r
  | '\\' :: r => if held then '\\' :: '\\' :: escape false r else escape true r
  | c :: r => if held then '\\' :: '\\' :: c :: escape false r else c :: escape false r

def label (name value : String) : String :=
  name ++ "=\"" ++ String.ofList (escape false value.toList) ++ "\""

/-- A series as it is written. -/
def text : Series → String
  | reloads dataset success =>
    "gatekeeper_reloads_total\x7b" ++ label "dataset" dataset.label ++ ","
      ++ label "outcome" (if success then "success" else "failure") ++ "\x7d"
  | entries dataset =>
    "gatekeeper_snapshot_entries\x7b" ++ label "dataset" dataset.label ++ "\x7d"
  | invalidLines dataset =>
    "gatekeeper_invalid_lines_total\x7b" ++ label "dataset" dataset.label ++ "\x7d"
  | commands identifier status =>
    "gatekeeper_refresh_commands_total\x7b" ++ label "identifier" identifier ++ ","
      ++ label "status" (toString status) ++ "\x7d"

end Series

/-- The number of every series that was touched. -/
structure Metrics where
  entries : List (Series × Nat) := []
deriving DecidableEq, Repr

namespace Metrics

/-- The number of a series, if it was touched. -/
def get? (m : Metrics) (s : Series) : Option Nat := m.entries.lookup s

/-- Gives a series its number. -/
def set (m : Metrics) (s : Series) (n : Nat) : Metrics :=
  ⟨(s, n) :: m.entries.filter (fun e => e.1 ≠ s)⟩

/-- Adds to the number of a series. -/
def add (m : Metrics) (s : Series) (n : Nat) : Metrics := m.set s ((m.get? s).getD 0 + n)

/-- Takes up one measure. -/
def record (m : Metrics) : Measure → Metrics
  | .reloaded dataset success => m.add (.reloads dataset success) 1
  | .published dataset entries => m.set (.entries dataset) entries
  | .skipped dataset lines => m.add (.invalidLines dataset) lines
  | .refreshed identifier status => m.add (.commands (identifier.getD unknownLabel) status) 1

/-- Takes up the measures among some notes. -/
def recordAll (m : Metrics) (notes : List Note) : Metrics :=
  notes.foldl (fun m n => match n with | .measure x => m.record x | _ => m) m

/-- The texts of the series with their numbers, the last touched first. Of
series with one text only the last touched is there. -/
def samples (m : Metrics) : List (String × Nat) :=
  (m.entries.map fun (s, n) => (s.text, n)).eraseDupsBy (fun a b => a.1 == b.1)

/-- One line for each sample, sorted. -/
def lines (m : Metrics) : List String :=
  (m.samples.map fun (text, n) => text ++ " " ++ toString n).mergeSort (fun a b => a ≤ b)

-- ================================================== the number of a series

theorem lookup_filter_ne (l : List (Series × Nat)) {s t : Series} (h : t ≠ s) :
    (l.filter (fun e => e.1 ≠ s)).lookup t = l.lookup t := by
  induction l with
  | nil => rfl
  | cons e r ih =>
    obtain ⟨k, n⟩ := e
    by_cases hk : k = s
    · subst hk
      have : (t == k) = false := by simpa using h
      simpa [List.lookup_cons, this] using ih
    · by_cases ht : t = k
      · subst ht; simp [hk]
      · have : (t == k) = false := by simpa using ht
        simpa [hk, List.lookup_cons, this] using ih

theorem get?_set (m : Metrics) (s t : Series) (n : Nat) :
    (m.set s n).get? t = if t = s then some n else m.get? t := by
  by_cases h : t = s
  · subst h; simp [get?, set]
  · have : (t == s) = false := by simpa using h
    simp only [get?, set, List.lookup_cons, this, if_neg h]
    exact lookup_filter_ne _ h

end Metrics

end Warden
