/-
What the metrics say after some notes were taken up.

# Contents

A counter is the sum of what the notes add to it (`Note.weight`,
`number_recordAll`), so how notes are grouped into steps does not matter.
The gauge of a dataset is the size that was published last, if any was
(`gauge_recordAll`).

Refresh commands are spread over one counter for each label and status.
As a series is listed once (`Keyed`), the sum over all of them grows by
one with each command (`commands_recordAll`), and a label is only there
because a command gave it (`label_recordAll`).
-/
import Warden.Metrics
import Mathlib.Algebra.GroupWithZero.Nat
import Mathlib.Data.List.Nodup

namespace Warden

-- ======================================================= what notes measure

/-- What a measure adds to a counter. -/
def Measure.weight (s : Series) : Measure → Nat
  | .reloaded dataset success => if s = .reloads dataset success then 1 else 0
  | .published _ _ => 0
  | .skipped dataset lines => if s = .invalidLines dataset then lines else 0
  | .refreshed identifier status =>
    if s = .commands (identifier.getD unknownLabel) status then 1 else 0

/-- What a note adds to a counter. -/
def Note.weight (s : Series) : Note → Nat
  | .measure x => x.weight s
  | _ => 0

/-- What some notes add to a counter. -/
def tally (s : Series) (notes : List Note) : Nat := (notes.map (Note.weight s)).sum

/-- The size that a note says was published of a dataset. -/
def Note.published? (d : Dataset) : Note → Option Nat
  | .measure (.published dataset entries) => if dataset = d then some entries else none
  | _ => none

/-- The identifier, if it was registered, and the status of a command that
a note says came back. -/
def Note.refreshed? : Note → Option (Option String × Int)
  | .measure (.refreshed identifier status) => some (identifier, status)
  | _ => none

/-- The sizes that some notes say were published of a dataset. -/
def publishedSizes (d : Dataset) (notes : List Note) : List Nat :=
  notes.filterMap (Note.published? d)

/-- The commands that some notes say came back. -/
def refreshedCommands (notes : List Note) : List (Option String × Int) :=
  notes.filterMap Note.refreshed?

variable {s : Series} {d : Dataset} {n : Note} {notes later : List Note}

@[simp] theorem tally_nil : tally s [] = 0 := rfl

@[simp] theorem tally_cons : tally s (n :: notes) = n.weight s + tally s notes := rfl

@[simp] theorem tally_append : tally s (notes ++ later) = tally s notes + tally s later := by
  simp [tally]

/-- Notes of no weight for a series count for nothing in it. -/
theorem tally_eq_zero (h : ∀ n ∈ notes, n.weight s = 0) : tally s notes = 0 := by
  refine List.sum_eq_zero_iff_forall_eq_nat.mpr fun k hk => ?_
  obtain ⟨n, hn, rfl⟩ := List.mem_map.mp hk
  exact h n hn

@[simp] theorem publishedSizes_append :
    publishedSizes d (notes ++ later) = publishedSizes d notes ++ publishedSizes d later :=
  List.filterMap_append

@[simp] theorem refreshedCommands_append :
    refreshedCommands (notes ++ later) = refreshedCommands notes ++ refreshedCommands later :=
  List.filterMap_append

namespace Metrics

variable (m : Metrics)

-- ================================================================= counters

/-- The number of a series; one that was never touched is at zero. -/
def number (m : Metrics) (s : Series) : Nat := (m.get? s).getD 0

@[simp] theorem get?_empty (s : Series) : ({} : Metrics).get? s = none := rfl

theorem recordAll_cons (n : Note) (notes : List Note) :
    m.recordAll (n :: notes)
      = (match n with | .measure x => m.record x | _ => m).recordAll notes := rfl

/-- Counting up one series leaves the others as they are. -/
theorem get?_add (s t : Series) (k : Nat) :
    (m.add s k).get? t = if t = s then some (m.number s + k) else m.get? t :=
  get?_set m s t (m.number s + k)

/-- What is counted is added to the number that stands there. -/
theorem number_add (s t : Series) (k : Nat) :
    (m.add s k).number t = m.number t + if t = s then k else 0 := by
  unfold number
  rw [get?_add]
  split
  case isTrue h => rw [h]; rfl
  case isFalse => rfl

/-- A series that is no gauge. -/
def IsCounter (s : Series) : Prop := ∀ d, s ≠ .entries d

/-- One measure adds its weight to a counter. -/
theorem number_record (hs : IsCounter s) (x : Measure) :
    (m.record x).number s = m.number s + x.weight s := by
  cases x with
  | reloaded dataset success => exact number_add m _ s 1
  | published dataset entries =>
      show ((m.set (.entries dataset) entries).get? s).getD 0 = _
      rw [get?_set, if_neg (hs dataset)]
      rfl
  | skipped dataset lines => exact number_add m _ s lines
  | refreshed identifier status => exact number_add m _ s 1

/-- What a counter shows after some notes is what it showed before and what
they weigh for it. -/
theorem number_recordAll (hs : IsCounter s) :
    ∀ (notes : List Note) (m : Metrics),
      (m.recordAll notes).number s = m.number s + tally s notes := by
  intro notes
  induction notes with
  | nil => intro m; rfl
  | cons n rest ih =>
      intro m
      rw [recordAll_cons, ih, tally_cons, ← Nat.add_assoc]
      congr 1
      cases n with
      | event e => rfl
      | measure x => exact number_record m hs x
      | call registration args => rfl

-- =================================================================== gauges

/-- A gauge shows the last size that was published, if one was. -/
theorem gauge_record (x : Measure) :
    (m.record x).get? (.entries d)
      = ((Note.measure x).published? d).or (m.get? (.entries d)) := by
  cases x with
  | reloaded dataset success => rw [record, get?_add, if_neg (by simp)]; rfl
  | published dataset entries =>
      rw [record, get?_set]
      by_cases hd : dataset = d
      · simp [Note.published?, hd]
      · simp [Note.published?, hd, Ne.symm hd]
  | skipped dataset lines => rw [record, get?_add, if_neg (by simp)]; rfl
  | refreshed identifier status => rw [record, get?_add, if_neg (by simp)]; rfl

/-- The gauge of a dataset is the size published last. -/
theorem gauge_recordAll :
    ∀ (notes : List Note) (m : Metrics),
      (m.recordAll notes).get? (.entries d)
        = (publishedSizes d notes).getLast?.or (m.get? (.entries d)) := by
  intro notes
  induction notes with
  | nil => intro m; rfl
  | cons n rest ih =>
      intro m
      rw [recordAll_cons, ih]
      cases n with
      | event e => rfl
      | call registration args => rfl
      | measure x =>
          rw [gauge_record]
          unfold publishedSizes
          cases hx : (Note.measure x).published? d with
          | none => rw [List.filterMap_cons_none hx, Option.none_or]
          | some k =>
              rw [List.filterMap_cons_some hx, List.getLast?_cons]
              cases (rest.filterMap (Note.published? d)).getLast? <;> rfl

-- ================================================================= commands

/-- No series is listed twice. -/
def Keyed (m : Metrics) : Prop := (m.entries.map Prod.fst).Nodup

/-- The number of a series that counts refresh commands; zero for others. -/
def commandsOf : Series × Nat → Nat
  | (.commands _ _, n) => n
  | _ => 0

/-- The sum of the refresh commands over all labels and statuses. -/
def commands (m : Metrics) : Nat := (m.entries.map commandsOf).sum

variable {m}

theorem keyed_empty : Keyed {} := List.nodup_nil

/-- Setting a series keeps one number for each. -/
theorem keyed_set (hm : Keyed m) (s : Series) (n : Nat) : Keyed (m.set s n) := by
  have hkept : (m.entries.filter fun e => e.1 ≠ s).map Prod.fst
      = (m.entries.map Prod.fst).filter fun t => t ≠ s := by
    rw [List.filter_map]
    rfl
  show (s :: (m.entries.filter fun e => e.1 ≠ s).map Prod.fst).Nodup
  rw [hkept, List.nodup_cons]
  exact ⟨by simp, hm.filter _⟩

/-- A measure keeps one number for each series. -/
theorem keyed_record (hm : Keyed m) (x : Measure) : Keyed (m.record x) := by
  cases x <;> exact keyed_set hm _ _

/-- Of a list without repeated series, one is told apart. -/
theorem sum_commandsOf (s : Series) :
    ∀ entries : List (Series × Nat), (entries.map Prod.fst).Nodup →
      (entries.map commandsOf).sum
        = commandsOf (s, (entries.lookup s).getD 0)
          + ((entries.filter fun e => e.1 ≠ s).map commandsOf).sum := by
  intro entries
  induction entries with
  | nil => intro _; cases s <;> rfl
  | cons e rest ih =>
      obtain ⟨t, n⟩ := e
      intro hnodup
      obtain ⟨hfirst, hrest⟩ := List.nodup_cons.mp hnodup
      by_cases hs : s = t
      case pos =>
        subst hs
        have hothers : (rest.filter fun e => e.1 ≠ s) = rest := by
          refine List.filter_eq_self.mpr fun e he => decide_eq_true fun heq => hfirst ?_
          exact List.mem_map.mpr ⟨e, he, heq⟩
        have hfilter : (((s, n) :: rest).filter fun e => e.1 ≠ s) = rest := by
          rw [List.filter_cons_of_neg (by simp), hothers]
        rw [hfilter, List.lookup_cons_self]
        rfl
      case neg =>
        have hlookup : ((t, n) :: rest).lookup s = rest.lookup s := by
          have hdiffers : (s == t) = false := beq_eq_false_iff_ne.mpr hs
          rw [List.lookup_cons, hdiffers]
        have hfilter : (((t, n) :: rest).filter fun e => e.1 ≠ s)
            = (t, n) :: rest.filter fun e => e.1 ≠ s :=
          List.filter_cons_of_pos (decide_eq_true (Ne.symm hs))
        rw [hlookup, hfilter, List.map_cons, List.map_cons, List.sum_cons, List.sum_cons, ih hrest,
          Nat.add_left_comm]

/-- Setting one series changes the sum over all refresh commands by as much
as that series. -/
theorem commands_set (hm : Keyed m) (s : Series) (n : Nat) :
    (m.set s n).commands + commandsOf (s, m.number s) = m.commands + commandsOf (s, n) := by
  have hset : (m.set s n).commands
      = commandsOf (s, n) + ((m.entries.filter fun e => e.1 ≠ s).map commandsOf).sum := rfl
  have htold : m.commands = commandsOf (s, m.number s)
      + ((m.entries.filter fun e => e.1 ≠ s).map commandsOf).sum := sum_commandsOf s m.entries hm
  rw [hset, htold]
  omega

/-- A measure adds one to the sum if it is of a refresh command, and nothing
else. -/
theorem commands_record (hm : Keyed m) (x : Measure) :
    (m.record x).commands = m.commands + (refreshedCommands [.measure x]).length := by
  cases x with
  | reloaded dataset success => exact commands_set hm (.reloads dataset success) _
  | published dataset entries => exact commands_set hm (.entries dataset) _
  | skipped dataset lines => exact commands_set hm (.invalidLines dataset) _
  | refreshed identifier status =>
      let s : Series := .commands (identifier.getD unknownLabel) status
      have hset := commands_set hm s (m.number s + 1)
      have hone : (m.set s (m.number s + 1)).commands + m.number s
          = m.commands + (m.number s + 1) := hset
      show (m.set s (m.number s + 1)).commands = m.commands + 1
      omega

/-- The counters of refresh commands add up to the commands that came back. -/
theorem commands_recordAll :
    ∀ (notes : List Note) (m : Metrics), Keyed m →
      (m.recordAll notes).commands = m.commands + (refreshedCommands notes).length := by
  intro notes
  induction notes with
  | nil => intro m _; rfl
  | cons n rest ih =>
      intro m hm
      rw [recordAll_cons]
      cases n with
      | event e => exact ih m hm
      | call registration args => exact ih m hm
      | measure x =>
          have hsplit : refreshedCommands (.measure x :: rest)
              = refreshedCommands [.measure x] ++ refreshedCommands rest := by
            rw [← refreshedCommands_append]
            rfl
          show ((m.record x).recordAll rest).commands = _
          rw [ih _ (keyed_record hm x), commands_record hm x, hsplit, List.length_append,
            Nat.add_assoc]

/-- A series of refresh commands that a measure brings up is that of its own
identifier and status. -/
theorem get?_commands_record {label : String} {status : Int} (x : Measure) {k : Nat}
    (hsome : (m.record x).get? (.commands label status) = some k) :
    m.get? (.commands label status) ≠ none
      ∨ ∃ identifier, x = .refreshed identifier status ∧ identifier.getD unknownLabel = label := by
  cases x with
  | reloaded dataset success =>
      rw [record, get?_add, if_neg (by simp)] at hsome
      exact .inl (by simp [hsome])
  | published dataset entries =>
      rw [record, get?_set, if_neg (by simp)] at hsome
      exact .inl (by simp [hsome])
  | skipped dataset lines =>
      rw [record, get?_add, if_neg (by simp)] at hsome
      exact .inl (by simp [hsome])
  | refreshed identifier other =>
      rw [record, get?_add] at hsome
      split at hsome
      case isTrue heq =>
        obtain ⟨rfl, rfl⟩ := Series.commands.inj heq
        exact .inr ⟨identifier, rfl, rfl⟩
      case isFalse => exact .inl (by simp [hsome])

/-- A label is there because a command came back under it. -/
theorem label_recordAll {label : String} {status : Int} {k : Nat} :
    ∀ (notes : List Note) (m : Metrics),
      (m.recordAll notes).get? (.commands label status) = some k →
        m.get? (.commands label status) ≠ none
          ∨ ∃ identifier, (identifier, status) ∈ refreshedCommands notes
              ∧ identifier.getD unknownLabel = label := by
  intro notes
  induction notes with
  | nil => intro m hsome; exact .inl (by simp [show m.get? _ = some k from hsome])
  | cons n rest ih =>
      intro m hsome
      cases n with
      | event e => exact ih m hsome
      | call registration args => exact ih m hsome
      | measure x =>
          have hsplit : refreshedCommands (.measure x :: rest)
              = refreshedCommands [.measure x] ++ refreshedCommands rest := by
            rw [← refreshedCommands_append]
            rfl
          rw [hsplit]
          rcases ih (m.record x) hsome with htouched | ⟨identifier, hmem, hlabel⟩
          · obtain ⟨n, hn⟩ := Option.ne_none_iff_exists'.mp htouched
            rcases get?_commands_record x hn with hbefore | ⟨identifier, rfl, hlabel⟩
            · exact .inl hbefore
            · exact .inr ⟨identifier, List.mem_append_left _ (List.mem_singleton.mpr rfl), hlabel⟩
          · exact .inr ⟨identifier, List.mem_append_right _ hmem, hlabel⟩

end Metrics

end Warden
