/-
The form of the records that reading yields.

# Contents

`Layout.Yields` is what can be relied on in a record, whatever text it
was read from and whatever the delimiter is. It follows the way that a
record is made: a line has no newline, so no piece of it has one; a piece
has no delimiter and, once trimmed, no blank at its ends; and what is
kept of the pieces is checked for being empty where that matters. The
induction over lines is behind `mem_records_scan`, so one case for each
layout is left (`yields_of_entryOf?`).

# What rests on it

Credentials are made of the records with exactly two values. All records
of a password file have two, so none is passed over, and there are as
many credentials as distinct keys (`size_ofRecords`). And a name gets an
entry in a roster only with a value, so no entry is empty.
-/
import Mathlib.Data.List.Dedup
import Warden.Proofs.Policy.Login
import Warden.Proofs.Record.Joining
import Warden.Proofs.Roster
import Warden.Record.Writer

namespace Warden

open Text

variable {layout : Layout} {line s t : List Char} {d : Char} {e : Entry}

-- ============================================================== the form

/-- What a record says, wherever it stands. -/
def Record.entry (r : Record) : Entry := ⟨r.key.toList, r.values.map String.toList⟩

@[simp] theorem Entry.entry_record (e : Entry) (n : Nat) : (e.record n).entry = e := by
  simp [Entry.record, Record.entry, List.map_map]

namespace Layout

/-- What holds of every entry that a layout reads. -/
def Yields : Layout → Entry → Prop
  | .list, e => e.key ≠ [] ∧ Plain e.key ∧ e.values = []
  | .keyValues d, e =>
    e.key ≠ [] ∧ Plain e.key ∧ d ∉ e.key ∧ e.values ≠ [] ∧ e.values.Nodup
      ∧ ∀ v ∈ e.values, v ≠ [] ∧ Plain v ∧ d ∉ v ∧ ',' ∉ v
  | .fields d count, e =>
    e.key ≠ [] ∧ Plain e.key ∧ e.values.length + 1 = count
      ∧ (∀ f ∈ e.key :: e.values, Plain f ∧ d ∉ f) ∧ e.values.getLast? ≠ some []

/-- Trimmed text is plain, if it holds no newline. -/
theorem plain_trim (hs : '\n' ∉ s) : Plain (trim s) :=
  ⟨trim_eq_self (trimmed_trim s), notMem_trim hs⟩

/-- A trimmed piece of a line is plain, and holds no delimiter. -/
theorem plain_piece (hs : '\n' ∉ s) {p : List Char} (hp : p ∈ pieces d s) :
    Plain (trim p) ∧ d ∉ trim p :=
  ⟨plain_trim (notMem_piece d hs hp), notMem_trim (notMem_of_mem_pieces d hp)⟩

/-- A token of a line is not empty, is plain, and holds no delimiter. -/
theorem plain_token (hs : '\n' ∉ s) (ht : t ∈ tokens d s) : t ≠ [] ∧ Plain t ∧ d ∉ t := by
  obtain ⟨hne, p, hp, rfl⟩ := (mem_tokens d).mp ht
  exact ⟨hne, plain_piece hs hp⟩

/-- A line yields an entry of this form or none. -/
theorem yields_of_entryOf? (hline : '\n' ∉ line) (he : layout.entryOf? line = some e) :
    layout.Yields e := by
  cases layout with
  | list =>
      obtain ⟨hne, -, hread⟩ := entryOf?_eq_some_iff.mp he
      obtain rfl : ⟨trim line, []⟩ = e := Except.ok.inj hread
      exact ⟨hne, plain_trim hline, rfl⟩
  | keyValues d =>
      obtain ⟨-, hvalues, field, htokens, hfield⟩ := entryOf?_keyValues.mp he
      obtain ⟨hkey, hplain, hdkey⟩ : e.key ≠ [] ∧ Plain e.key ∧ d ∉ e.key :=
        plain_token hline (by rw [htokens]; exact List.mem_cons_self)
      obtain ⟨-, ⟨-, hnewline⟩, hdfield⟩ : field ≠ [] ∧ Plain field ∧ d ∉ field :=
        plain_token hline (by rw [htokens]; exact List.mem_cons_of_mem _ List.mem_cons_self)
      have hnodup : e.values.Nodup := hfield ▸ nodup_firsts _
      refine ⟨hkey, hplain, hdkey, hvalues, hnodup, fun v hv => ?_⟩
      -- A value is a token of the second token, which has no delimiter.
      rw [← hfield, mem_values] at hv
      obtain ⟨hne, hvplain, hcomma⟩ := plain_token hnewline hv
      obtain ⟨-, p, hp, rfl⟩ := (mem_tokens ',').mp hv
      exact ⟨hne, hvplain, notMem_trim (notMem_piece ',' hdfield hp), hcomma⟩
  | fields d count =>
      obtain ⟨-, hkey, hcount, hfields⟩ := entryOf?_fields.mp he
      obtain ⟨hlast, n, hparts⟩ := positional_eq_iff.mp hfields
      have hform : ∀ f ∈ e.key :: e.values, Plain f ∧ d ∉ f := by
        intro f hf
        have hmem : f ∈ (pieces d (trim line)).map trim := by
          rw [hparts]
          exact List.mem_append_left _ hf
        obtain ⟨p, hp, rfl⟩ := List.mem_map.mp hmem
        exact plain_piece (notMem_trim hline) hp
      refine ⟨hkey, (hform e.key List.mem_cons_self).1, hcount, hform, ?_⟩
      cases hvalues : e.values with
      | nil => simp
      | cons v vs =>
          rw [hvalues, List.getLast?_cons_cons] at hlast
          exact hlast

/-- Every record that a scan finds is one that its layout yields. -/
theorem yields_of_mem_records {text : String} {r : Record} (hr : r ∈ (scan layout text).records) :
    layout.Yields r.entry := by
  obtain ⟨i, line, e, hline, he, rfl⟩ := mem_records_scan.mp hr
  rw [Entry.entry_record]
  exact yields_of_entryOf? (newline_notMem_of_mem_lines (List.mem_of_getElem? hline)) he

/-- The values of a record of three fields. -/
theorem values_eq_pair {r : Record} (h : (fields d 3).Yields r.entry) :
    ∃ digest enabled, r.values = [digest, enabled] := by
  obtain ⟨-, -, hcount, -⟩ := h
  apply List.length_eq_two.mp
  simp only [Record.entry, List.length_map] at hcount
  omega

end Layout

-- =========================================================== credentials

namespace Credentials

variable {records : List Record}
  (hpairs : ∀ r ∈ records, ∃ digest enabled, r.values = [digest, enabled])
include hpairs

/-- No record is passed over where all have two values. -/
theorem mem_ofRecords {user : String} :
    user ∈ ofRecords records ↔ ∃ r ∈ records, r.key = user := by
  suffices hfold : ∀ users : Credentials,
      user ∈ records.foldl (fun users r => Passwords.insertRecord users r.key r.values) users
        ↔ user ∈ users ∨ ∃ r ∈ records, r.key = user from
    (hfold ∅).trans (by simp)
  induction records with
  | nil => simp
  | cons r rest ih =>
      intro users
      obtain ⟨digest, enabled, hvalues⟩ := hpairs r List.mem_cons_self
      rw [List.foldl_cons, ih fun q hq => hpairs q (List.mem_cons_of_mem r hq), hvalues]
      simp [Passwords.insertRecord, Std.TreeMap.mem_insert, or_assoc, or_left_comm]

/-- A table of records has as many entries as there are different keys. -/
theorem size_ofRecords :
    (ofRecords records).size = (records.map (·.key)).dedup.length := by
  rw [← Std.TreeMap.length_keys]
  apply List.Perm.length_eq
  apply (List.perm_ext_iff_of_nodup Std.TreeMap.nodup_keys (List.nodup_dedup _)).mpr
  intro user
  rw [Std.TreeMap.mem_keys, mem_ofRecords hpairs, List.mem_dedup, List.mem_map]

end Credentials

-- ============================================================== the laws

/-- Every record that reading yields has the form of its layout. So each
record of a password file becomes a credential, of which there are as
many as distinct keys; and in the roster of a text of keys and values, as
of groups and of the variable whitelist, no name is without a value. -/
theorem records_are_well_formed :
    (∀ (layout : Layout) (text : String) (contents : Contents),
        parse layout text = .ok contents → ∀ r ∈ contents.records, layout.Yields r.entry)
      ∧ (∀ text : String, ∃ contents, parse Dataset.passwords.layout text = .ok contents
          ∧ (∀ r ∈ contents.records, ∃ digest enabled, r.values = [digest, enabled])
          ∧ (∀ user, user ∈ Credentials.ofRecords contents.records
              ↔ ∃ r ∈ contents.records, r.key = user)
          ∧ (Credentials.ofRecords contents.records).size
              = (contents.records.map (·.key)).dedup.length)
      ∧ ∀ (d : Char) (text : String), ∃ contents, parse (.keyValues d) text = .ok contents
          ∧ ∀ name values, (Roster.ofRecords contents.records).find? name = some values →
              values.isEmpty = false := by
  refine ⟨fun layout text contents hparse r hr => ?_, fun text => ?_, fun d text => ?_⟩
  · rw [eq_scan_of_parse_eq_ok hparse] at hr
    exact Layout.yields_of_mem_records hr
  · have hpairs : ∀ r ∈ (scan Dataset.passwords.layout text).records,
        ∃ digest enabled, r.values = [digest, enabled] := fun r hr =>
      Layout.values_eq_pair (Layout.yields_of_mem_records hr)
    exact ⟨_, parse_eq_ok Dataset.passwords.keyed_layout text, hpairs,
      fun _ => Credentials.mem_ofRecords hpairs, Credentials.size_ofRecords hpairs⟩
  · refine ⟨_, @parse_eq_ok (.keyValues d) trivial text, fun name values hfind => ?_⟩
    exact Roster.isEmpty_of_find?_ofText d text hfind

/-- Two users on three lines, with an empty field inside, blanks and a
line that is too short. -/
theorem records_are_well_formed_passwords :
    let text := "ann:x:true\r\n bob :: no :\nbob:x\nann:y:true"
    ∃ contents, parse Dataset.passwords.layout text = .ok contents
      ∧ contents.records
          = [⟨1, "ann", ["x", "true"]⟩, ⟨2, "bob", ["", "no"]⟩, ⟨4, "ann", ["y", "true"]⟩]
      ∧ (∀ r ∈ contents.records, Dataset.passwords.layout.Yields r.entry)
      ∧ (Credentials.ofRecords contents.records).size = 2 := by
  intro text
  obtain ⟨hform, hpasswords, -⟩ := records_are_well_formed
  obtain ⟨contents, hparse, -, -, hsize⟩ := hpasswords text
  have hrecords : contents.records
      = [⟨1, "ann", ["x", "true"]⟩, ⟨2, "bob", ["", "no"]⟩, ⟨4, "ann", ["y", "true"]⟩] := by
    have hread : parse Dataset.passwords.layout text
        = .ok ⟨[⟨1, "ann", ["x", "true"]⟩, ⟨2, "bob", ["", "no"]⟩, ⟨4, "ann", ["y", "true"]⟩],
            [⟨3, "bob:x", 2⟩]⟩ := by decide
    rw [← Except.ok.inj (hread.symm.trans hparse)]
  refine ⟨contents, hparse, hrecords, hform _ text contents hparse, ?_⟩
  rw [hsize, hrecords]
  decide

end Warden
