/-
What a roster holds, in terms of the lines that it was made of.

# Contents

`Roster.lists` says of one name and one value whether the value stands
under the name. Adding a record adds its pairs and takes none away
(`lists_enrol`), so a roster has the pairs of its records and no others
(`lists_ofRecords`), whatever their order and however often a name
occurs. For a text of keys and values these are the pairs that its lines
give (`lists_ofText`), and a name without a value has no entry
(`find?_ofText_eq_none_iff`), so no entry is empty, and the size of the
roster counts the names that some line gives a value (`mem_names_ofText`,
`length_names`).
-/
import Warden.Proofs.Record.Lines
import Warden.Roster

namespace Warden

open Text

namespace Roster

variable {name value : String}

/-- Whether a value stands under a name. -/
def lists (r : Roster) (name value : String) : Bool :=
  (r.find? name).any (·.contains value)

@[simp] theorem lists_empty : (∅ : Roster).lists name value = false := by
  simp [lists]

-- ============================================================ one record

/-- Enrolling adds the values to those of its key. -/
theorem lists_enrol (r : Roster) (key : String) (values : List String) :
    (r.enrol key values).lists name value = true
      ↔ r.lists name value = true ∨ key = name ∧ value ∈ values := by
  unfold lists
  rw [find?_enrol]
  by_cases hkey : key = name
  · subst hkey
    cases hfind : r.find? key <;> simp
  · simp [hkey]

/-- A name without an entry is one that was neither there nor enrolled. -/
theorem find?_enrol_eq_none_iff (r : Roster) (key : String) (values : List String) :
    (r.enrol key values).find? name = none ↔ r.find? name = none ∧ key ≠ name := by
  rw [find?_enrol]
  by_cases hkey : key = name <;> simp [hkey]

-- ========================================================== many records

/-- A roster lists what one of its records has. -/
theorem lists_ofRecords (records : List Record) :
    (ofRecords records).lists name value = true
      ↔ ∃ record ∈ records, record.key = name ∧ value ∈ record.values := by
  suffices hfold : ∀ r : Roster,
      (records.foldl (fun r record => r.enrol record.key record.values) r).lists name value = true
        ↔ r.lists name value = true
          ∨ ∃ record ∈ records, record.key = name ∧ value ∈ record.values by
    rw [ofRecords, hfold, lists_empty]
    simp
  induction records with
  | nil => simp
  | cons record rest ih =>
      intro r
      rw [List.foldl_cons, ih, lists_enrol]
      simp [or_assoc]

/-- It has no entry for a name that no record has. -/
theorem find?_ofRecords_eq_none_iff (records : List Record) :
    (ofRecords records).find? name = none ↔ ∀ record ∈ records, record.key ≠ name := by
  suffices hfold : ∀ r : Roster,
      (records.foldl (fun r record => r.enrol record.key record.values) r).find? name = none
        ↔ r.find? name = none ∧ ∀ record ∈ records, record.key ≠ name by
    rw [ofRecords, hfold, find?_empty]
    simp
  induction records with
  | nil => simp
  | cons record rest ih =>
      intro r
      rw [List.foldl_cons, ih, find?_enrol_eq_none_iff]
      simp [and_assoc]

-- ================================================================= texts

variable (d : Char) (text : String)

/-- The roster of a text of keys and values. -/
def ofText : Roster := ofRecords (scan (.keyValues d) text).records

/-- A roster of a text lists what some line gives. -/
theorem lists_ofText :
    (ofText d text).lists name value = true ↔ ∃ line ∈ lines text.toList, Gives d line name value := by
  rw [ofText, lists_ofRecords]
  constructor
  · rintro ⟨record, hrecord, rfl, hvalue⟩
    obtain ⟨i, line, e, hline, he, rfl⟩ := mem_records_scan.mp hrecord
    obtain ⟨v, hv, rfl⟩ := List.mem_map.mp hvalue
    refine ⟨line, List.mem_of_getElem? hline, exists_entryOf?_keyValues.mp ⟨e, he, ?_, ?_⟩⟩
    · exact String.toList_ofList.symm
    · rwa [String.toList_ofList]
  · rintro ⟨line, hline, hgives⟩
    obtain ⟨i, hi⟩ := List.getElem?_of_mem hline
    obtain ⟨e, he, hkey, hvalue⟩ := exists_entryOf?_keyValues.mpr hgives
    refine ⟨e.record (i + 1), mem_records_scan.mpr ⟨i, line, e, hi, he, rfl⟩, ?_, ?_⟩
    · simp [Entry.record, hkey]
    · exact List.mem_map.mpr ⟨value.toList, hvalue, String.ofList_toList⟩

/-- Every name that has an entry has a value. -/
theorem find?_ofText_eq_none_iff :
    (ofText d text).find? name = none
      ↔ ∀ line ∈ lines text.toList, ∀ value, ¬ Gives d line name value := by
  rw [ofText, find?_ofRecords_eq_none_iff]
  constructor
  · intro hnone line hline value hgives
    obtain ⟨i, hi⟩ := List.getElem?_of_mem hline
    obtain ⟨e, he, hkey, -⟩ := exists_entryOf?_keyValues.mpr hgives
    refine hnone (e.record (i + 1)) (mem_records_scan.mpr ⟨i, line, e, hi, he, rfl⟩) ?_
    simp [Entry.record, hkey]
  · rintro hnone record hrecord rfl
    obtain ⟨i, line, e, hline, he, rfl⟩ := mem_records_scan.mp hrecord
    obtain ⟨v, hv⟩ := List.exists_mem_of_ne_nil _ (entryOf?_keyValues.mp he).2.1
    refine hnone line (List.mem_of_getElem? hline) (String.ofList v) ?_
    refine exists_entryOf?_keyValues.mp ⟨e, he, String.toList_ofList.symm, ?_⟩
    rwa [String.toList_ofList]

/-- So no name has an entry with nothing in it. -/
theorem isEmpty_of_find?_ofText {values : Names} (hfind : (ofText d text).find? name = some values) :
    values.isEmpty = false := by
  have hnamed : (ofText d text).find? name ≠ none := by
    rw [hfind]
    exact Option.some_ne_none values
  rw [Ne, find?_ofText_eq_none_iff] at hnamed
  push Not at hnamed
  obtain ⟨line, hline, value, hgives⟩ := hnamed
  have hlists := (lists_ofText d text).mpr ⟨line, hline, hgives⟩
  rw [lists, hfind] at hlists
  exact Std.TreeSet.isEmpty_eq_false_iff_exists_contains_eq_true.mpr ⟨value, hlists⟩

-- ================================================================= names

/-- The names that have an entry. -/
def names (r : Roster) : List String := r.entries.keys

/-- As many names as there are entries. -/
theorem length_names (r : Roster) : r.names.length = r.size := Std.TreeMap.length_keys

theorem nodup_names (r : Roster) : r.names.Nodup := Std.TreeMap.nodup_keys

/-- The names are those with an entry. -/
theorem mem_names {r : Roster} : name ∈ r.names ↔ r.find? name ≠ none := by
  rw [names, Std.TreeMap.mem_keys, Std.TreeMap.mem_iff_isSome_getElem?, find?,
    Option.isSome_iff_ne_none]

/-- In a text these are the names to which some line gives something. -/
theorem mem_names_ofText :
    name ∈ (ofText d text).names
      ↔ ∃ line ∈ lines text.toList, ∃ value, Gives d line name value := by
  rw [mem_names, Ne, find?_ofText_eq_none_iff]
  push Not
  rfl

end Roster

end Warden
