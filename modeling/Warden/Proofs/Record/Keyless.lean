/-
Which texts are read, and where a line of another shape goes.

# The text that is refused

Reading fails for one reason only: a layout of no fields is asked to take
a line that says something and has nothing in it but delimiters. Dropping
the empty fields leaves such a line without any, so it has the number of
fields that was wanted and no first one (`isKeyless_iff`). Every other
text is read, by this layout as by any other.

# The lines that are reported

`Layout.Fits` is the shape that a layout wants, said of the pieces of a
line. In a text that is read, a line that says something is a record if
it fits and an invalid line if it does not (`exists_mem_records_iff`,
`exists_mem_invalid_iff`), so no line is lost for being of another shape.
-/
import Warden.Proofs.Record.Joining

namespace Warden

open Text

variable {layout : Layout} {text : String} {line : List Char} {i : Nat}

-- ============================================================== the shape

/-- The line has the shape that a layout wants. -/
def Layout.Fits : Layout → List Char → Prop
  | .list, _ => True
  | .keyValues d, line => ∃ key field, tokens d line = [key, field] ∧ tokens ',' field ≠ []
  | .fields d count, line =>
    ∃ key rest, key ≠ [] ∧ rest.length + 1 = count ∧ (key :: rest).getLast? ≠ some []
      ∧ ∃ n, (pieces d (trim line)).map trim = key :: rest ++ List.replicate n []

theorem values_ne_nil_iff {field : List Char} : values field ≠ [] ↔ tokens ',' field ≠ [] := by
  rw [Ne, Ne, List.eq_nil_iff_forall_not_mem, List.eq_nil_iff_forall_not_mem]
  simp only [mem_values]

/-- Fitting lines are those that something can be read from. -/
theorem exists_entryOf?_iff :
    (∃ e, layout.entryOf? line = some e)
      ↔ trim line ≠ [] ∧ ¬ IsComment line ∧ layout.Fits line := by
  constructor
  · rintro ⟨e, he⟩
    obtain ⟨hne, hcomment, -⟩ := Layout.entryOf?_eq_some_iff.mp he
    refine ⟨hne, hcomment, ?_⟩
    cases layout with
    | list => trivial
    | keyValues d =>
        obtain ⟨-, hvalues, field, htokens, hfield⟩ := entryOf?_keyValues.mp he
        refine ⟨e.key, field, htokens, ?_⟩
        rwa [← values_ne_nil_iff, hfield]
    | fields d count =>
        obtain ⟨-, hkey, hcount, hfields⟩ := entryOf?_fields.mp he
        obtain ⟨hlast, n, hparts⟩ := (positional_eq_iff).mp hfields
        exact ⟨e.key, e.values, hkey, hcount, hlast, n, hparts⟩
  · rintro ⟨hne, hcomment, hfits⟩
    cases layout with
    | list =>
        exact ⟨⟨trim line, []⟩, Layout.entryOf?_eq_some_iff.mpr ⟨hne, hcomment, rfl⟩⟩
    | keyValues d =>
        obtain ⟨key, field, htokens, hfield⟩ := hfits
        refine ⟨⟨key, values field⟩, entryOf?_keyValues.mpr ⟨hcomment, ?_, field, htokens, rfl⟩⟩
        exact values_ne_nil_iff.mpr hfield
    | fields d count =>
        obtain ⟨key, rest, hkey, hcount, hlast, n, hparts⟩ := hfits
        refine ⟨⟨key, rest⟩, entryOf?_fields.mpr ⟨hcomment, hkey, hcount, ?_⟩⟩
        exact positional_eq_iff.mpr ⟨hlast, n, hparts⟩

section Spoken

variable (hline : (lines text.toList)[i]? = some line) (hne : trim line ≠ [])
  (hcomment : ¬ IsComment line)
include hline hne hcomment

/-- A line becomes a record if and only if it fits the layout. -/
theorem exists_mem_records_iff :
    (∃ r ∈ (scan layout text).records, r.lineNo = i + 1) ↔ layout.Fits line := by
  constructor
  · rintro ⟨r, hr, hnumber⟩
    obtain ⟨j, other, e, hother, he, rfl⟩ := mem_records_scan.mp hr
    obtain rfl : j = i := Nat.succ.inj hnumber
    obtain rfl : line = other := Option.some.inj (hline.symm.trans hother)
    exact (exists_entryOf?_iff.mp ⟨e, he⟩).2.2
  · intro hfits
    obtain ⟨e, he⟩ := exists_entryOf?_iff.mpr ⟨hne, hcomment, hfits⟩
    exact ⟨e.record (i + 1), mem_records_scan.mpr ⟨i, line, e, hline, he, rfl⟩, rfl⟩

/-- A line is told as invalid if and only if it does not fit. -/
theorem exists_mem_invalid_iff :
    (∃ fields, (⟨i + 1, String.ofList (trim line), fields⟩ : InvalidLine)
        ∈ (scan layout text).invalid)
      ↔ ¬ layout.Fits line := by
  constructor
  · rintro ⟨fields, hmem⟩ hfits
    obtain ⟨j, other, refusal, hother, hread, heq⟩ :=
      (readsEachLine_scan layout text).invalidLine _ hmem
    obtain rfl : i = j := Nat.succ.inj (InvalidLine.mk.inj heq).1
    obtain rfl : line = other := Option.some.inj (hline.symm.trans hother)
    obtain ⟨e, he⟩ := exists_entryOf?_iff.mpr ⟨hne, hcomment, hfits⟩
    rw [(Layout.entryOf?_eq_some_iff.mp he).2.2] at hread
    cases hread
  · intro hmisfit
    cases hread : layout.read (trim line) with
    | error refusal =>
        have hspeaks : isSilent (trim line) = false :=
          (isSilent_eq_false_iff _).mpr ⟨hne, hcomment⟩
        exact ⟨refusal.fields, mem_invalid_scan hline hspeaks hread⟩
    | ok e =>
        have he : layout.entryOf? line = some e :=
          Layout.entryOf?_eq_some_iff.mpr ⟨hne, hcomment, hread⟩
        exact absurd (exists_entryOf?_iff.mp ⟨e, he⟩).2.2 hmisfit

end Spoken

-- ============================================================ the refusal

/-- A line has no fields if it has no tokens. -/
theorem positional_eq_nil_iff {d : Char} : positional d line = [] ↔ tokens d line = [] := by
  rw [positional_eq_iff]
  unfold tokens
  rw [List.filter_eq_nil_iff]
  constructor
  · rintro ⟨-, n, hparts⟩ p hp
    rw [hparts, List.nil_append] at hp
    rw [List.eq_of_mem_replicate hp]
    decide
  · intro hempty
    refine ⟨by simp, _, List.eq_replicate_of_mem fun p hp => ?_⟩
    simpa using hempty p hp

/-- Keyless is a line of delimiters and blanks, where no field is asked for. -/
theorem isKeyless_iff :
    layout.isKeyless (trim line) = true
      ↔ ∃ d, layout = .fields d 0 ∧ ∀ c ∈ line, c = d ∨ isBlank c = true := by
  by_cases hkeyed : layout.Keyed
  case pos =>
    rw [hkeyed.isKeyless_eq_false]
    constructor
    · exact fun h => absurd h Bool.false_ne_true
    · rintro ⟨d, rfl, -⟩
      exact absurd rfl hkeyed
  case neg =>
    obtain ⟨d, rfl⟩ : ∃ d, layout = .fields d 0 := by
      cases layout with
      | list => exact absurd trivial hkeyed
      | keyValues d => exact absurd trivial hkeyed
      | fields d count => exact ⟨d, by rw [Decidable.not_not.mp hkeyed]⟩
    have hread : Layout.isKeyless (.fields d 0) (trim line) = true
        ↔ positional d (trim line) = [] := by
      cases hfields : positional d (trim line) with
      | nil => simp [Layout.isKeyless, Layout.read, hfields]
      | cons key rest => simp [Layout.isKeyless, Layout.read, hfields]
    rw [hread, positional_eq_nil_iff, tokens_trim, tokens_eq_nil_iff]
    constructor
    · exact fun h => ⟨d, rfl, h⟩
    · rintro ⟨other, heq, h⟩
      injection heq with hd
      rwa [hd]

/-- A line says something, and has nothing in it but delimiters. -/
def DelimitersAlone (d : Char) (line : List Char) : Prop :=
  trim line ≠ [] ∧ ¬ IsComment line ∧ ∀ c ∈ line, c = d ∨ isBlank c = true

/-- Parsing is refused for such a line alone. -/
theorem parse_eq_error_iff :
    parse layout text = .error .keylessLine
      ↔ ∃ d, layout = .fields d 0 ∧ ∃ line ∈ lines text.toList, DelimitersAlone d line := by
  rw [parse_eq_ite]
  have hany : ((spokenLines text.toList).any fun p => layout.isKeyless p.2) = true
      ↔ ∃ d, layout = .fields d 0 ∧ ∃ line ∈ lines text.toList, DelimitersAlone d line := by
    rw [List.any_eq_true]
    constructor
    · rintro ⟨⟨n, spoken⟩, hspoken, hkeyless⟩
      obtain ⟨i, line, -, hline, hspeaks, rfl⟩ := mem_spokenLines.mp hspoken
      obtain ⟨d, hlayout, halone⟩ := isKeyless_iff.mp hkeyless
      obtain ⟨hne, hcomment⟩ := (isSilent_eq_false_iff _).mp hspeaks
      exact ⟨d, hlayout, line, List.mem_of_getElem? hline, hne, hcomment, halone⟩
    · rintro ⟨d, hlayout, line, hmem, hne, hcomment, halone⟩
      obtain ⟨i, hline⟩ := List.getElem?_of_mem hmem
      have hspeaks : isSilent (trim line) = false :=
        (isSilent_eq_false_iff _).mpr ⟨hne, hcomment⟩
      exact ⟨(i + 1, trim line), mem_spokenLines.mpr ⟨i, line, rfl, hline, hspeaks, rfl⟩,
        isKeyless_iff.mpr ⟨d, hlayout, halone⟩⟩
  rw [← hany]
  split
  case isTrue h => simp [h]
  case isFalse h => simp [h]

/-- Where it is not refused, it is what a scan finds. -/
theorem parse_eq_scan (h : parse layout text ≠ .error .keylessLine) :
    parse layout text = .ok (scan layout text) := by
  rw [parse_eq_ite] at h ⊢
  split
  case isTrue hkeyless => exact absurd (if_pos hkeyless) h
  case isFalse => rfl

/-- A text is refused exactly if its lines should have no fields and one
of them is nothing but delimiters. Every other text is read, and each of
its lines that says something is a record if it has the shape that is
wanted, and reported if it has not. -/
theorem refused_only_when_keyless (layout : Layout) (text : String) :
    (parse layout text = .error .keylessLine
        ↔ ∃ d, layout = .fields d 0 ∧ ∃ line ∈ lines text.toList, DelimitersAlone d line)
      ∧ ((∀ d, layout = .fields d 0 → ∀ line ∈ lines text.toList, ¬ DelimitersAlone d line) →
          ∃ contents, parse layout text = .ok contents
            ∧ ∀ i line, (lines text.toList)[i]? = some line → trim line ≠ [] → ¬ IsComment line →
                ((∃ r ∈ contents.records, r.lineNo = i + 1) ↔ layout.Fits line)
                  ∧ ((∃ fields, ⟨i + 1, String.ofList (trim line), fields⟩ ∈ contents.invalid)
                      ↔ ¬ layout.Fits line)) := by
  refine ⟨parse_eq_error_iff, fun hnone => ?_⟩
  have hread : parse layout text = .ok (scan layout text) := by
    apply parse_eq_scan
    rw [Ne, parse_eq_error_iff]
    rintro ⟨d, hlayout, line, hline, halone⟩
    exact hnone d hlayout line hline halone
  refine ⟨_, hread, fun i line hline hne hcomment => ⟨?_, ?_⟩⟩
  · exact exists_mem_records_iff hline hne hcomment
  · exact exists_mem_invalid_iff hline hne hcomment

/-- The smallest text that is refused: a line of one delimiter, where no
field is wanted. Where one is wanted, the line is reported. -/
theorem delimiter_alone_is_refused :
    (¬ ∃ contents, parse (.fields ':' 0) ":" = .ok contents)
      ∧ parse (.fields ':' 1) ":" = .ok ⟨[], [⟨1, ":", 0⟩]⟩ := by
  have hrefused : parse (.fields ':' 0) ":" = .error .keylessLine := by decide
  refine ⟨?_, by decide⟩
  rintro ⟨contents, hread⟩
  rw [hrefused] at hread
  cases hread

end Warden
