/-
Texts read one after the other.

# Contents

A text that ends with a newline can be continued, and a line of either
text is then read as it was, only with another number
(`spokenLines_append`). Reading is a homomorphism therefore, from texts
under continuation to contents under continuation (`parse_append`): for
every layout, and including the refusal of a whole text for a line
without a key.

Within one text, a line that says something is read exactly once, as a
record or as an invalid line but not as both, and nothing else is read
(`readsEachLine_scan`). The numbers of the spoken lines carry this: they
ascend, so each of them occurs once (`pairwise_numbers`), and they are
shared out between the two lists (`entriesAt_scan`).
-/
import Mathlib.Data.List.Nodup
import Warden.Proofs.Record.Lines

namespace Warden

open Text

-- ========================================================== continuation

/-- The record of the same line with some lines put before it. -/
def Record.later (count : Nat) (r : Record) : Record := { r with lineNo := r.lineNo + count }

def InvalidLine.later (count : Nat) (l : InvalidLine) : InvalidLine :=
  { l with lineNo := l.lineNo + count }

/-- What a file of `count` lines holds when it is continued by another. -/
def Contents.continued (first : Contents) (count : Nat) (rest : Contents) : Contents where
  records := first.records ++ rest.records.map (·.later count)
  invalid := first.invalid ++ rest.invalid.map (·.later count)

/-- After a line that has ended, the spoken lines of what follows are
numbered on. -/
theorem spokenLines_append {s : List Char} (hs : Ended s) (t : List Char) :
    spokenLines (s ++ t)
      = spokenLines s ++ (spokenLines t).map (Prod.map (· + (lines s).length) id) := by
  have hnumbers : (lines (s ++ t)).zipIdx 1
      = (lines s).zipIdx 1 ++ ((lines t).zipIdx 1).map (Prod.map id (· + (lines s).length)) := by
    rw [lines_append hs, List.zipIdx_append, List.map_snd_add_zipIdx_eq_zipIdx, Nat.add_comm 1]
  unfold spokenLines
  rw [hnumbers, List.filterMap_append, List.filterMap_map, List.map_filterMap]
  congr 1
  refine List.filterMap_congr fun p _ => ?_
  obtain ⟨raw, n⟩ := p
  cases hsilent : isSilent (trim raw) <;> simp [hsilent]

/-- The scan of what follows is numbered on in the same way. -/
theorem scan_append (layout : Layout) {a : String} (ha : Ended a.toList) (b : String) :
    scan layout (a ++ b)
      = (scan layout a).continued (lines a.toList).length (scan layout b) := by
  simp only [scan, Contents.continued, String.toList_append, spokenLines_append ha,
    List.filterMap_append, List.filterMap_map, List.map_filterMap, Contents.mk.injEq]
  constructor
  · congr 1
    refine List.filterMap_congr fun p _ => ?_
    obtain ⟨n, line⟩ := p
    cases hread : layout.read line <;> simp [hread, Entry.record, Record.later]
  · congr 1
    refine List.filterMap_congr fun p _ => ?_
    obtain ⟨n, line⟩ := p
    cases hread : layout.read line <;> simp [hread, InvalidLine.later]

/-- Parsing is refused for a keyless line alone; else it is what a scan
finds. -/
theorem parse_eq_ite (layout : Layout) (text : String) :
    parse layout text
      = if (spokenLines text.toList).any fun p => layout.isKeyless p.2 then .error .keylessLine
        else .ok (scan layout text) :=
  rfl

/-- What is parsed is what a scan finds. -/
theorem eq_scan_of_parse_eq_ok {layout : Layout} {text : String} {contents : Contents}
    (h : parse layout text = .ok contents) : contents = scan layout text := by
  rw [parse_eq_ite] at h
  split at h
  case isTrue => cases h
  case isFalse => exact (Except.ok.inj h).symm

/-- A continued text is read part by part, and refused if a part is. -/
theorem parse_append (layout : Layout) {a : String} (ha : Ended a.toList) (b : String) :
    parse layout (a ++ b) = (do
      let first ← parse layout a
      let rest ← parse layout b
      pure (first.continued (lines a.toList).length rest)) := by
  -- Whether a line has a key is not a matter of its number.
  have hkeyless : ∀ s : List (Nat × List Char), ∀ count : Nat,
      (s.map (Prod.map (· + count) id)).any (fun p => layout.isKeyless p.2)
        = s.any fun p => layout.isKeyless p.2 := by
    intro s count
    rw [List.any_map]
    rfl
  simp only [parse_eq_ite, scan_append layout ha, String.toList_append, spokenLines_append ha,
    List.any_append, hkeyless]
  cases (spokenLines a.toList).any fun p => layout.isKeyless p.2 with
  | true => rfl
  | false =>
      cases (spokenLines b.toList).any fun p => layout.isKeyless p.2 with
      | true => rfl
      | false => rfl

-- =============================================================== numbers

/-- The lines that say something keep the numbers that they have among
all lines. -/
theorem numbers_eq (s : List Char) :
    (spokenLines s).map Prod.fst
      = (((lines s).zipIdx 1).filter fun p => !isSilent (trim p.1)).map Prod.snd := by
  unfold spokenLines
  induction (lines s).zipIdx 1 with
  | nil => rfl
  | cons p rest ih =>
      cases hsilent : isSilent (trim p.1) with
      | true => simpa [hsilent] using ih
      | false => simpa [hsilent] using ih

/-- Spoken lines come in ascending order. -/
theorem pairwise_numbers (s : List Char) : ((spokenLines s).map Prod.fst).Pairwise (· < ·) := by
  rw [numbers_eq]
  have hall : (((lines s).zipIdx 1).map Prod.snd).Pairwise (· < ·) := by
    rw [List.zipIdx_map_snd]
    exact List.pairwise_lt_range' 1
  exact hall.sublist (List.filter_sublist.map _)

/-- So does whatever is made of some of those lines. -/
theorem pairwise_places {α : Type} {place : α → Nat} {made : Nat × List Char → Option α}
    (hplace : ∀ p a, made p = some a → place a = p.1) (s : List Char) :
    (((spokenLines s).filterMap made).map place).Pairwise (· < ·) := by
  have hascend := List.pairwise_map.mp (pairwise_numbers s)
  refine List.pairwise_map.mpr (hascend.filterMap made fun p q hlt a ha b hb => ?_)
  rw [hplace p a ha, hplace q b hb]
  exact hlt

/-- A spoken line is a trimmed line with its number, if it is neither empty
nor a comment. -/
theorem mem_spokenLines {s spoken : List Char} {n : Nat} :
    (n, spoken) ∈ spokenLines s
      ↔ ∃ i line, n = i + 1 ∧ (lines s)[i]? = some line ∧ isSilent (trim line) = false
          ∧ spoken = trim line := by
  simp only [spokenLines, List.mem_filterMap, Prod.exists,
    List.mk_mem_zipIdx_iff_le_and_getElem?_sub]
  constructor
  · rintro ⟨line, k, ⟨hk, hline⟩, hspoken⟩
    cases hspeaks : isSilent (trim line) with
    | true => simp [hspeaks] at hspoken
    | false =>
        simp only [hspeaks, Bool.false_eq_true, if_false, Option.some.injEq, Prod.mk.injEq]
          at hspoken
        obtain ⟨rfl, rfl⟩ := hspoken
        exact ⟨k - 1, line, (Nat.sub_add_cancel hk).symm, hline, hspeaks, rfl⟩
  · rintro ⟨i, line, rfl, hline, hspeaks, rfl⟩
    exact ⟨line, i + 1, ⟨Nat.le_add_left 1 i, hline⟩, by simp [hspeaks]⟩

/-- How many entries a file has for a line, of both kinds together. -/
def Contents.entriesAt (c : Contents) (n : Nat) : Nat :=
  (c.records.map (·.lineNo)).count n + (c.invalid.map (·.lineNo)).count n

/-- Each spoken line goes into one of the two lists. -/
theorem entriesAt_scan (layout : Layout) (text : String) (n : Nat) :
    (scan layout text).entriesAt n = ((spokenLines text.toList).map Prod.fst).count n := by
  unfold Contents.entriesAt scan
  induction spokenLines text.toList with
  | nil => rfl
  | cons p rest ih =>
      obtain ⟨m, line⟩ := p
      cases hread : layout.read line with
      | ok e =>
          simp only [List.filterMap_cons, hread, List.map_cons, List.count_cons, Entry.record]
            at ih ⊢
          omega
      | error r =>
          simp only [List.filterMap_cons, hread, List.map_cons, List.count_cons] at ih ⊢
          omega

-- ======================================================= every line once

/-- What was read is what the lines of a text say, each of them once. -/
structure ReadsEachLine (layout : Layout) (text : String) (c : Contents) : Prop where
  /-- A line that says something has one entry, in one of the lists. -/
  spoken : ∀ i line, (lines text.toList)[i]? = some line → trim line ≠ [] → ¬ IsComment line →
    c.entriesAt (i + 1) = 1
  /-- A blank line or a comment has none. -/
  silent : ∀ i line, (lines text.toList)[i]? = some line → trim line = [] ∨ IsComment line →
    c.entriesAt (i + 1) = 0
  /-- Nor is there an entry for a line that the text does not have. -/
  outside : ∀ n, n = 0 ∨ (lines text.toList).length < n → c.entriesAt n = 0
  /-- A record is the entry of its line. -/
  record : ∀ r ∈ c.records, ∃ i line e, (lines text.toList)[i]? = some line
    ∧ layout.entryOf? line = some e ∧ r = e.record (i + 1)
  /-- An invalid line shows the line, and how many fields were found. -/
  invalidLine : ∀ l ∈ c.invalid, ∃ i line refusal, (lines text.toList)[i]? = some line
    ∧ layout.read (trim line) = .error refusal
    ∧ l = ⟨i + 1, String.ofList (trim line), refusal.fields⟩
  records_ascend : (c.records.map (·.lineNo)).Pairwise (· < ·)
  invalid_ascend : (c.invalid.map (·.lineNo)).Pairwise (· < ·)

/-- A scan reads each line by itself. -/
theorem readsEachLine_scan (layout : Layout) (text : String) :
    ReadsEachLine layout text (scan layout text) where
  spoken i line hline hne hcomment := by
    have hspoken : (i + 1, trim line) ∈ spokenLines text.toList :=
      mem_spokenLines.mpr
        ⟨i, line, rfl, hline, (isSilent_eq_false_iff _).mpr ⟨hne, hcomment⟩, rfl⟩
    have hnodup : ((spokenLines text.toList).map Prod.fst).Nodup :=
      (pairwise_numbers text.toList).imp Nat.ne_of_lt
    rw [entriesAt_scan]
    exact List.count_eq_one_of_mem hnodup (List.mem_map_of_mem hspoken)
  silent i line hline hsilent := by
    rw [entriesAt_scan, List.count_eq_zero]
    intro hmem
    obtain ⟨⟨n, spoken⟩, hspoken, rfl⟩ := List.mem_map.mp hmem
    obtain ⟨k, l, hn, hl, hspeaks, -⟩ := mem_spokenLines.mp hspoken
    obtain rfl : i = k := Nat.succ.inj hn
    obtain rfl : line = l := Option.some.inj (hline.symm.trans hl)
    obtain ⟨hne, hhead⟩ := (isSilent_eq_false_iff _).mp hspeaks
    exact hsilent.elim hne hhead
  outside n hout := by
    rw [entriesAt_scan, List.count_eq_zero]
    intro hmem
    obtain ⟨⟨n, spoken⟩, hspoken, rfl⟩ := List.mem_map.mp hmem
    obtain ⟨i, line, hn, hline, -⟩ := mem_spokenLines.mp hspoken
    have hlt := (List.getElem?_eq_some_iff.mp hline).1
    omega
  record r hr := mem_records_scan.mp hr
  invalidLine l hl := by
    obtain ⟨⟨n, spoken⟩, hspoken, hread⟩ := List.mem_filterMap.mp hl
    obtain ⟨i, line, rfl, hline, -, rfl⟩ := mem_spokenLines.mp hspoken
    cases hrefused : layout.read (trim line) with
    | ok e => simp [hrefused] at hread
    | error refusal =>
        simp only [hrefused, Option.some.injEq] at hread
        exact ⟨i, line, refusal, hline, hrefused, hread.symm⟩
  records_ascend := by
    refine pairwise_places (fun p r hr => ?_) text.toList
    obtain ⟨n, line⟩ := p
    cases hread : layout.read line with
    | ok e =>
        simp only [hread, Option.some.injEq] at hr
        rw [← hr]
        rfl
    | error refusal => simp [hread] at hr
  invalid_ascend := by
    refine pairwise_places (fun p l hl => ?_) text.toList
    obtain ⟨n, line⟩ := p
    cases hread : layout.read line with
    | ok e => simp [hread] at hl
    | error refusal =>
        simp only [hread, Option.some.injEq] at hl
        rw [← hl]

end Warden
