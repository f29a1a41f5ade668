/-
Reading undoes writing.

# Contents

The line of every layout is its parts joined by the delimiter, with the
key first. Such a line keeps its ends when it is trimmed, and says
something because its key does (`plain_intercalate`); this holds whatever
the delimiter is, a blank or the comment sign included, for a line
neither begins nor ends with one. So an entry that a layout admits is
what the layout reads from the line of the entry (`entryOf?_write`).

A written line is not empty and has no newline, so a text of such lines
has just these, and `parse_render` reads off the entries in order.
-/
import Warden.Proofs.Record.Joining
import Warden.Proofs.Text.Joined
import Warden.Record.Writer

namespace Warden

open Text

namespace Layout

variable {layout : Layout} {d : Char} {e : Entry}

instance (part : List Char) : Decidable (Plain part) := inferInstanceAs (Decidable (_ ∧ _))

instance (key : List Char) : Decidable (Speaks key) := inferInstanceAs (Decidable (_ = _))

instance : Decidable (layout.Admits e) :=
  match layout with
  | .list => inferInstanceAs (Decidable (_ ∧ _))
  | .keyValues _ => inferInstanceAs (Decidable (_ ∧ _))
  | .fields _ _ => inferInstanceAs (Decidable (_ ∧ _))

-- ============================================================== one line

theorem Speaks.ne_nil {key : List Char} (h : Speaks key) : key ≠ [] :=
  ((isSilent_eq_false_iff key).mp h).1

/-- Plain parts make a plain line if the last of them is not empty, and
the line says something if the first one does. -/
theorem plain_intercalate (hd : d ≠ '\n') {key : List Char} {rest : List (List Char)}
    (hplain : ∀ p ∈ key :: rest, Plain p) (hspeaks : Speaks key)
    (hlast : (key :: rest).getLast? ≠ some []) :
    Plain (List.intercalate [d] (key :: rest)) ∧ Speaks (List.intercalate [d] (key :: rest)) := by
  have hfirst : (key :: rest).head? ≠ some [] := by
    rw [List.head?_cons, Ne, Option.some_inj]
    exact hspeaks.ne_nil
  have hhead := head?_intercalate d hspeaks.ne_nil rest
  refine ⟨⟨?_, ?_⟩, ?_⟩
  · exact trim_intercalate d (fun p hp => (hplain p hp).1) hfirst hlast
  · exact notMem_intercalate d (Ne.symm hd) fun p hp => (hplain p hp).2
  · obtain ⟨hne, hcomment⟩ := (isSilent_eq_false_iff key).mp hspeaks
    refine (isSilent_eq_false_iff _).mpr ⟨fun hnil => ?_, hhead ▸ hcomment⟩
    rw [hnil] at hhead
    exact hne (List.head?_eq_none_iff.mp hhead.symm)

/-- A key with values is written as two fields, the values between commas. -/
theorem write_keyValues (d : Char) (e : Entry) :
    (keyValues d).write e = List.intercalate [d] [e.key, List.intercalate [','] e.values] := by
  rw [List.intercalate_cons_cons, List.intercalate_singleton, List.append_assoc]
  rfl

/-- The values of an entry make one plain part, from which they are read. -/
theorem Admits.field (h : (keyValues d).Admits e) :
    let field := List.intercalate [','] e.values
    Plain field ∧ field ≠ [] ∧ d ∉ field ∧ values field = e.values := by
  obtain ⟨hcomma, -, -, -, -, hne, hnodup, hvalues⟩ := h
  have hread : values (List.intercalate [','] e.values) = e.values :=
    values_intercalate hnodup fun v hv =>
      ⟨(hvalues v hv).1, (hvalues v hv).2.1.1, (hvalues v hv).2.2.2⟩
  refine ⟨⟨?_, ?_⟩, ?_, ?_, hread⟩
  · refine trim_intercalate ',' (fun v hv => (hvalues v hv).2.1.1) (fun hnil => ?_) fun hnil => ?_
    · exact (hvalues [] (List.mem_of_head? hnil)).1 rfl
    · exact (hvalues [] (List.mem_of_getLast? hnil)).1 rfl
  · exact notMem_intercalate ',' (by decide) fun v hv => (hvalues v hv).2.1.2
  · intro hnil
    rw [hnil] at hread
    exact hne hread.symm
  · exact notMem_intercalate ',' hcomma fun v hv => (hvalues v hv).2.2.1

theorem Admits.getLast?_parts {count : Nat} (h : (fields d count).Admits e) :
    (e.key :: e.values).getLast? ≠ some [] := by
  obtain ⟨-, -, hspeaks, -, -, hlast⟩ := h
  cases hvalues : e.values with
  | nil => simpa using hspeaks.ne_nil
  | cons v vs =>
      rw [List.getLast?_cons_cons, ← hvalues]
      exact hlast

/-- A written line is plain and says something. -/
theorem Admits.write (h : layout.Admits e) : Plain (layout.write e) ∧ Speaks (layout.write e) := by
  cases layout with
  | list => exact ⟨h.1, h.2.1⟩
  | keyValues d =>
      obtain ⟨hfield, hne, -, -⟩ := h.field
      obtain ⟨-, hnewline, hkey, hspeaks, -⟩ := h
      rw [write_keyValues]
      refine plain_intercalate hnewline ?_ hspeaks ?_
      · simpa using ⟨hkey, hfield⟩
      · simpa using hne
  | fields d count =>
      have hlast := h.getLast?_parts
      obtain ⟨hnewline, -, hspeaks, -, hparts, -⟩ := h
      exact plain_intercalate hnewline (fun p hp => (hparts p hp).1) hspeaks hlast

/-- A written line adds the entry that it was written for. -/
theorem entryOf?_write (h : layout.Admits e) : layout.entryOf? (layout.write e) = some e := by
  obtain ⟨⟨htrim, -⟩, hspeaks⟩ := h.write
  have hcomment : ¬ IsComment (layout.write e) := by
    unfold IsComment
    rw [htrim]
    exact ((isSilent_eq_false_iff _).mp hspeaks).2
  cases layout with
  | list =>
      obtain ⟨key, vs⟩ := e
      obtain rfl : vs = [] := h.2.2
      rw [Layout.entryOf?_eq_some_iff, htrim]
      exact ⟨hspeaks.ne_nil, hcomment, rfl⟩
  | keyValues d =>
      obtain ⟨⟨hfield, -⟩, hne, hd, hvalues⟩ := h.field
      obtain ⟨-, -, hkey, hkeySpeaks, hdkey, hnonempty, -⟩ := h
      -- The delimiter is in neither part, so it cuts the line in two.
      refine entryOf?_keyValues.mpr ⟨hcomment, hnonempty, _, ?_, hvalues⟩
      rw [write_keyValues]
      refine tokens_intercalate d fun p hp => ?_
      rcases List.mem_pair.mp hp with rfl | rfl
      · exact ⟨hkeySpeaks.ne_nil, hkey.1, hdkey⟩
      · exact ⟨hne, hfield, hd⟩
  | fields d count =>
      have hlast := h.getLast?_parts
      obtain ⟨-, -, hkeySpeaks, hcount, hparts, -⟩ := h
      refine entryOf?_fields.mpr ⟨hcomment, hkeySpeaks.ne_nil, hcount, ?_⟩
      -- Only empty fields at the end are dropped, and the last one is none.
      rw [htrim, positional_eq_iff]
      refine ⟨hlast, 0, ?_⟩
      have hpieces : pieces d ((fields d count).write e) = e.key :: e.values :=
        pieces_intercalate d (List.cons_ne_nil _ _) fun p hp => (hparts p hp).2
      rw [hpieces, List.replicate_zero, List.append_nil]
      exact (List.map_congr_left fun p hp => (hparts p hp).1.1).trans (List.map_id _)

/-- What is written of an entry is read as the entry. -/
theorem read_write (h : layout.Admits e) : layout.read (layout.write e) = .ok e := by
  have hread := (Layout.entryOf?_eq_some_iff.mp (entryOf?_write h)).2.2
  rwa [h.write.1.1] at hread

end Layout

-- ============================================================ whole texts

variable {layout : Layout} {entries : List Entry}

/-- The lines of a rendered text are those of its entries. -/
theorem lines_render (h : ∀ e ∈ entries, layout.Admits e) :
    lines (render layout entries).toList = entries.map layout.write := by
  rw [render, String.toList_ofList]
  refine lines_intercalate fun l hl => ?_
  obtain ⟨e, he, rfl⟩ := List.mem_map.mp hl
  obtain ⟨⟨-, hnewline⟩, hspeaks⟩ := (h e he).write
  exact ⟨hspeaks.ne_nil, hnewline⟩

/-- All of them are spoken, in order. -/
theorem spokenLines_render (h : ∀ e ∈ entries, layout.Admits e) :
    spokenLines (render layout entries).toList
      = (entries.zipIdx 1).map fun p => (p.2, layout.write p.1) := by
  rw [spokenLines, lines_render h, List.zipIdx_map, List.filterMap_map, ← List.filterMap_eq_map]
  refine List.filterMap_congr fun p hp => ?_
  obtain ⟨e, n⟩ := p
  obtain ⟨⟨htrim, -⟩, hspeaks⟩ := (h e (List.fst_mem_of_mem_zipIdx hp)).write
  have hspoken : isSilent (layout.write e) = false := hspeaks
  simp [htrim, hspoken]

/-- The text of some entries that a layout admits is read without any
complaint: its records are the entries in order, numbered from one. -/
theorem parse_render (layout : Layout) (entries : List Entry)
    (h : ∀ e ∈ entries, layout.Admits e) :
    parse layout (render layout entries)
      = .ok ⟨(entries.zipIdx 1).map fun p => p.1.record p.2, []⟩ := by
  have hread : ∀ p ∈ entries.zipIdx 1, layout.read (layout.write p.1) = .ok p.1 := fun p hp =>
    Layout.read_write (h p.1 (List.fst_mem_of_mem_zipIdx hp))
  have hkeyed : ((entries.zipIdx 1).map fun p => (p.2, layout.write p.1)).any
      (fun p => layout.isKeyless p.2) = false := by
    rw [List.any_map, List.any_eq_false]
    intro p hp
    simp [Layout.isKeyless, hread p hp]
  rw [parse_eq_ite, spokenLines_render h, hkeyed, if_neg Bool.false_ne_true, scan, spokenLines_render h,
    List.filterMap_map, List.filterMap_map]
  congr 2
  · rw [← List.filterMap_eq_map]
    refine List.filterMap_congr fun p hp => ?_
    simp [hread p hp]
  · refine List.filterMap_eq_nil_iff.mpr fun p hp => ?_
    simp [hread p hp]

/-- Fields between tabs, one of them empty, and a key that has blanks. -/
theorem parse_render_tabs :
    let layout := Layout.fields '\t' 3
    let entries : List Entry :=
      [⟨"ann b".toList, ["".toList, "x#y".toList]⟩, ⟨"bob".toList, ["é".toList, "no".toList]⟩]
    (∀ e ∈ entries, layout.Admits e)
      ∧ render layout entries = "ann b\t\tx#y\nbob\té\tno"
      ∧ parse layout "ann b\t\tx#y\nbob\té\tno"
          = .ok ⟨[⟨1, "ann b", ["", "x#y"]⟩, ⟨2, "bob", ["é", "no"]⟩], []⟩ := by
  intro layout entries
  have hadmits : ∀ e ∈ entries, layout.Admits e := by decide
  have htext : render layout entries = "ann b\t\tx#y\nbob\té\tno" := by decide
  refine ⟨hadmits, htext, ?_⟩
  rw [← htext, parse_render layout entries hadmits]
  decide

/-- A comment sign may separate, and the layout still admits the entry. -/
example : (Layout.keyValues '#').Admits ⟨"k".toList, ["a".toList, "b c".toList]⟩ := by decide

end Warden
