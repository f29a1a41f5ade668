/-
What the lines of a dataset text say, each for itself.

# Contents

`Layout.entryOf?` is what one line adds to a dataset. The records of a text
are the entries of its lines, in order and numbered (`records_scan`), so
whatever a policy builds of records it builds of lines.

For each layout there is a rule that says what a line stands for without
the reading of it: `Lists` for a key alone, `Gives` for a key with one of
its values, `Assigns` for the three fields of a user. The reading agrees
with the rules (`entryOf?_list`, `exists_entryOf?_keyValues`,
`entryOf?_fields`).
-/
import Mathlib.Data.List.DropRight
import Warden.Proofs.Text.Pieces
import Warden.Record.Reader

namespace Warden

open Text

variable {layout : Layout} {text : String} {line : List Char}

-- ================================================================= rules

/-- A line that begins with the comment sign, blanks aside. -/
def IsComment (line : List Char) : Prop := (trim line).head? = some '#'

/-- A line stands for a key alone: it is the key, blanks aside. -/
def Lists (line : List Char) (key : String) : Prop :=
  trim line = key.toList ∧ key ≠ "" ∧ ¬ IsComment line

/-- A line has two tokens, a key and a list with the value in it. -/
def Gives (d : Char) (line : List Char) (key value : String) : Prop :=
  ¬ IsComment line
    ∧ ∃ field, tokens d line = [key.toList, field] ∧ value.toList ∈ tokens ',' field

/-- A line has three fields by position, the first and the last of them
not empty; empty fields after these do not count. -/
def Assigns (d : Char) (line : List Char) (key second third : String) : Prop :=
  ¬ IsComment line ∧ key ≠ "" ∧ third ≠ ""
    ∧ ∃ n, (pieces d (trim line)).map trim
        = [key.toList, second.toList, third.toList] ++ List.replicate n []

instance (line : List Char) : Decidable (IsComment line) := inferInstanceAs (Decidable (_ = _))

instance (line : List Char) (key : String) : Decidable (Lists line key) :=
  inferInstanceAs (Decidable (_ ∧ _))

/-- The list of values is one of the tokens, so it can be looked for. -/
theorem gives_iff {d : Char} {key value : String} :
    Gives d line key value
      ↔ ¬ IsComment line
        ∧ ∃ field ∈ tokens d line, tokens d line = [key.toList, field]
            ∧ value.toList ∈ tokens ',' field := by
  refine and_congr_right fun _ => exists_congr fun field => ⟨fun h => ⟨?_, h⟩, And.right⟩
  rw [h.1]
  exact List.mem_cons_of_mem _ List.mem_cons_self

instance (d : Char) (line : List Char) (key value : String) : Decidable (Gives d line key value) :=
  decidable_of_iff' _ gives_iff

-- =============================================================== one line

/-- What a line adds to a dataset, if anything. -/
def Layout.entryOf? (layout : Layout) (line : List Char) : Option Entry :=
  if isSilent (trim line) then none else (layout.read (trim line)).toOption

/-- A line speaks if it is neither empty nor a comment. -/
theorem isSilent_eq_false_iff (s : List Char) :
    isSilent s = false ↔ s ≠ [] ∧ s.head? ≠ some '#' := by
  cases s <;> simp [isSilent]

/-- A line that is not silent adds what is read from it. -/
theorem Layout.entryOf?_eq_some_iff {e : Entry} :
    layout.entryOf? line = some e
      ↔ trim line ≠ [] ∧ ¬ IsComment line ∧ layout.read (trim line) = .ok e := by
  unfold entryOf? IsComment
  cases hsilent : isSilent (trim line) with
  | true =>
      simp only [if_true, reduceCtorEq, false_iff]
      rintro ⟨hne, hhead, -⟩
      have hspeaks : isSilent (trim line) = false := (isSilent_eq_false_iff _).mpr ⟨hne, hhead⟩
      rw [hsilent] at hspeaks
      cases hspeaks
  | false =>
      obtain ⟨hne, hhead⟩ := (isSilent_eq_false_iff _).mp hsilent
      cases layout.read (trim line) <;> simp [hne, hhead, Except.toOption]

/-- In a list, a line gives its address. -/
theorem entryOf?_list {key : String} :
    Layout.list.entryOf? line = some ⟨key.toList, []⟩ ↔ Lists line key := by
  rw [Layout.entryOf?_eq_some_iff]
  simp only [Layout.read, Except.ok.injEq, Entry.mk.injEq, and_true, Lists]
  constructor
  · rintro ⟨hne, hcomment, heq⟩
    refine ⟨heq, ?_, hcomment⟩
    rintro rfl
    exact hne heq
  · rintro ⟨heq, hne, hcomment⟩
    refine ⟨?_, hcomment, heq⟩
    rw [heq]
    simpa using hne

/-- A line of keys and values adds its first token, with the distinct
tokens of the second between commas. -/
theorem entryOf?_keyValues {d : Char} {e : Entry} :
    (Layout.keyValues d).entryOf? line = some e
      ↔ ¬ IsComment line ∧ e.values ≠ []
        ∧ ∃ field, tokens d line = [e.key, field] ∧ values field = e.values := by
  have hblank : trim line = [] → tokens d line = [] := by
    intro hnil
    rw [← tokens_trim, hnil, tokens_nil]
  rw [Layout.entryOf?_eq_some_iff]
  simp only [Layout.read, tokens_trim]
  constructor
  · rintro ⟨hne, hcomment, hread⟩
    split at hread
    case h_2 => cases hread
    case h_1 key field htokens =>
      split at hread
      case h_1 => cases hread
      case h_2 hvalues =>
        injection hread with hread
        subst hread
        exact ⟨hcomment, hvalues, field, htokens, rfl⟩
  · rintro ⟨hcomment, hvalues, field, htokens, hfield⟩
    refine ⟨fun hnil => ?_, hcomment, ?_⟩
    · rw [hblank hnil] at htokens
      cases htokens
    · simp only [htokens]
      split
      case h_1 hnone => exact absurd (hfield.symm.trans hnone) hvalues
      case h_2 => rw [hfield]

/-- So a value is added under a key exactly by the lines that give it. -/
theorem exists_entryOf?_keyValues {d : Char} {key value : String} :
    (∃ e, (Layout.keyValues d).entryOf? line = some e ∧ e.key = key.toList
        ∧ value.toList ∈ e.values)
      ↔ Gives d line key value := by
  constructor
  · rintro ⟨e, he, hkey, hvalue⟩
    obtain ⟨hcomment, -, field, htokens, hfield⟩ := entryOf?_keyValues.mp he
    refine ⟨hcomment, field, hkey ▸ htokens, ?_⟩
    rwa [← mem_values, hfield]
  · rintro ⟨hcomment, field, htokens, hvalue⟩
    rw [← mem_values] at hvalue
    refine ⟨⟨key.toList, values field⟩, entryOf?_keyValues.mpr ?_, rfl, hvalue⟩
    exact ⟨hcomment, List.ne_nil_of_mem hvalue, field, htokens, rfl⟩

-- ================================================================ fields

/-- The fields of a line are its trimmed pieces up to the last one that is
not empty. -/
theorem positional_eq_iff {d : Char} {fields : List (List Char)} :
    positional d line = fields
      ↔ fields.getLast? ≠ some [] ∧ ∃ n, (pieces d line).map trim = fields ++ List.replicate n [] := by
  have hdrop : positional d line = ((pieces d line).map trim).rdropWhile (·.isEmpty) := rfl
  rw [hdrop]
  generalize (pieces d line).map trim = parts
  constructor
  · rintro rfl
    refine ⟨fun hlast => ?_, (parts.rtakeWhile (·.isEmpty)).length, ?_⟩
    · have hne : parts.rdropWhile (·.isEmpty) ≠ [] := by
        intro hnil
        simp [hnil] at hlast
      rw [List.getLast?_eq_some_getLast hne] at hlast
      injection hlast with hlast
      exact List.rdropWhile_last_not _ _ hne (by rw [hlast]; rfl)
    · have hempty : parts.rtakeWhile (·.isEmpty)
          = List.replicate (parts.rtakeWhile (·.isEmpty)).length [] :=
        List.eq_replicate_of_mem fun p hp => List.isEmpty_iff.mp (List.mem_rtakeWhile_imp hp)
      rw [← hempty, List.rdropWhile_append_rtakeWhile]
  · rintro ⟨hlast, n, rfl⟩
    induction n with
    | zero =>
        rw [List.replicate_zero, List.append_nil, List.rdropWhile_eq_self_iff]
        intro hne hempty
        rw [List.getLast?_eq_some_getLast hne, List.isEmpty_iff.mp hempty] at hlast
        exact hlast rfl
    | succ n ih =>
        rw [List.replicate_succ', ← List.append_assoc, List.rdropWhile_concat_pos _ _ _ rfl, ih]

/-- A line of fields adds them, if they are as many as wanted and the
first of them is not empty. -/
theorem entryOf?_fields {d : Char} {count : Nat} {e : Entry} :
    (Layout.fields d count).entryOf? line = some e
      ↔ ¬ IsComment line ∧ e.key ≠ [] ∧ e.values.length + 1 = count
        ∧ positional d (trim line) = e.key :: e.values := by
  rw [Layout.entryOf?_eq_some_iff]
  simp only [Layout.read]
  constructor
  · rintro ⟨-, hcomment, hread⟩
    split at hread
    case h_1 => split at hread <;> cases hread
    case h_2 key rest hfields =>
      split at hread
      case isFalse => cases hread
      case isTrue hshape =>
        injection hread with hread
        subst hread
        exact ⟨hcomment, hshape.2, hshape.1, hfields⟩
  · rintro ⟨hcomment, hkey, hcount, hfields⟩
    refine ⟨fun hnil => ?_, hcomment, ?_⟩
    · rw [hnil] at hfields
      cases hfields
    · simp [hfields, hcount, hkey]

/-- So three fields are added exactly by the lines that assign them. -/
theorem entryOf?_fields_three {d : Char} {key second third : String} :
    (Layout.fields d 3).entryOf? line = some ⟨key.toList, [second.toList, third.toList]⟩
      ↔ Assigns d line key second third := by
  rw [entryOf?_fields, positional_eq_iff]
  simp [Assigns]

-- ============================================================ whole texts

/-- The records are the entries of the lines, with their numbers. -/
theorem records_scan (layout : Layout) (text : String) :
    (scan layout text).records
      = ((lines text.toList).zipIdx 1).filterMap fun (line, n) =>
          (layout.entryOf? line).map (·.record n) := by
  simp only [scan, spokenLines, List.filterMap_filterMap]
  refine List.filterMap_congr fun (line, n) _ => ?_
  cases hsilent : isSilent (trim line) with
  | true => simp [Layout.entryOf?, hsilent]
  | false =>
      simp only [Layout.entryOf?, hsilent, Bool.false_eq_true, if_false, Option.bind_some]
      cases layout.read (trim line) <;> rfl

/-- What is made of records whatever their numbers is made of lines. -/
theorem map_records_scan {α : Type} (ofRecord : Record → α) (ofEntry : Entry → α)
    (h : ∀ e n, ofRecord (e.record n) = ofEntry e) (layout : Layout) (text : String) :
    (scan layout text).records.map ofRecord
      = ((lines text.toList).filterMap layout.entryOf?).map ofEntry := by
  rw [records_scan, List.map_filterMap, List.map_filterMap]
  calc ((lines text.toList).zipIdx 1).filterMap
        (fun p => ((layout.entryOf? p.1).map (·.record p.2)).map ofRecord)
      = ((lines text.toList).zipIdx 1).filterMap (fun p => (layout.entryOf? p.1).map ofEntry) := by
        refine List.filterMap_congr fun p _ => ?_
        rw [Option.map_map]
        exact congrArg (Option.map · _) (funext fun e => h e p.2)
    _ = (((lines text.toList).zipIdx 1).map Prod.fst).filterMap
        (fun line => (layout.entryOf? line).map ofEntry) := by
        rw [List.filterMap_map]
        rfl
    _ = (lines text.toList).filterMap (fun line => (layout.entryOf? line).map ofEntry) := by
        rw [List.zipIdx_map_fst]

/-- A record is the entry of the line that it has the number of. -/
theorem mem_records_scan {r : Record} :
    r ∈ (scan layout text).records
      ↔ ∃ i line e, (lines text.toList)[i]? = some line ∧ layout.entryOf? line = some e
          ∧ r = e.record (i + 1) := by
  simp only [records_scan, List.mem_filterMap, Prod.exists,
    List.mk_mem_zipIdx_iff_le_and_getElem?_sub, Option.map_eq_some_iff]
  constructor
  · rintro ⟨line, n, ⟨hn, hline⟩, e, he, rfl⟩
    exact ⟨n - 1, line, e, hline, he, by rw [Nat.sub_add_cancel hn]⟩
  · rintro ⟨i, line, e, hline, he, rfl⟩
    exact ⟨line, i + 1, ⟨Nat.le_add_left 1 i, hline⟩, e, he, rfl⟩

/-- A line that says something and is refused is reported, with its number
and the number of its fields. -/
theorem mem_invalid_scan {i : Nat} {refusal : Refusal} (hline : (lines text.toList)[i]? = some line)
    (hspeaks : isSilent (trim line) = false) (hread : layout.read (trim line) = .error refusal) :
    (⟨i + 1, String.ofList (trim line), refusal.fields⟩ : InvalidLine)
      ∈ (scan layout text).invalid := by
  have hspoken : (i + 1, trim line) ∈ spokenLines text.toList := by
    refine List.mem_filterMap.mpr ⟨(line, i + 1), ?_, by simp [hspeaks]⟩
    exact List.mk_mem_zipIdx_iff_le_and_getElem?_sub.mpr ⟨Nat.le_add_left 1 i, hline⟩
  exact List.mem_filterMap.mpr ⟨_, hspoken, by simp [hread]⟩

end Warden
