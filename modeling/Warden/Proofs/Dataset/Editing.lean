/-
Datasets under edits of the lines that say nothing to them.

# Contents

A dataset does without the lines that its layout skips: blank ones,
comments, and those of another shape. Putting such lines into a text, or
taking them out, renumbers the other lines and does nothing else
(`Edited.filterMap_entryOf?`). None of the four datasets looks at the
numbers, so each is made of an edited text as it was of the text before
(`records_scan_edited` for what looks at keys and values only).

`lines_are_read_apart` puts this beside the two laws that it rests on: a
text that is continued is read part by part, and every line is read once.
-/
import Warden.Proofs.Policy.Groups
import Warden.Proofs.Policy.Login
import Warden.Proofs.Policy.Whitelist
import Warden.Proofs.Record.Joining

namespace Warden

open Text

variable {layout : Layout} {line : List Char}

-- ========================================================= skipped lines

/-- A line is blank, a comment, or of another shape. -/
def Layout.Skips (layout : Layout) (line : List Char) : Prop :=
  trim line = [] ∨ IsComment line ∨ ∃ refusal, layout.read (trim line) = .error refusal

theorem Layout.skips_iff : layout.Skips line ↔ layout.entryOf? line = none := by
  rw [Option.eq_none_iff_forall_ne_some]
  constructor
  · rintro hskips e he
    obtain ⟨hne, hcomment, hread⟩ := entryOf?_eq_some_iff.mp he
    rcases hskips with hblank | hnote | ⟨refusal, hrefused⟩
    · exact hne hblank
    · exact hcomment hnote
    · rw [hread] at hrefused
      cases hrefused
  · intro hnone
    by_cases hblank : trim line = []
    · exact .inl hblank
    · by_cases hcomment : IsComment line
      · exact .inr (.inl hcomment)
      · cases hread : layout.read (trim line) with
        | error refusal => exact .inr (.inr ⟨refusal, hread⟩)
        | ok e => exact absurd (entryOf?_eq_some_iff.mpr ⟨hblank, hcomment, hread⟩) (hnone e)

/-- Some lines after any number of edits, each of which puts in or takes
out one line that is skipped. -/
inductive Edited (layout : Layout) (ls : List (List Char)) : List (List Char) → Prop
  | refl : Edited layout ls ls
  | insert {before after : List (List Char)} {line : List Char} :
      Edited layout ls (before ++ after) → layout.Skips line →
        Edited layout ls (before ++ line :: after)
  | delete {before after : List (List Char)} {line : List Char} :
      Edited layout ls (before ++ line :: after) → layout.Skips line →
        Edited layout ls (before ++ after)

namespace Edited

variable {ls before after : List (List Char)}

/-- An edit of one line takes nothing from what all lines add. -/
theorem filterMap_insert (h : layout.Skips line) :
    (before ++ line :: after).filterMap layout.entryOf?
      = (before ++ after).filterMap layout.entryOf? := by
  rw [List.filterMap_append, List.filterMap_append,
    List.filterMap_cons_none (Layout.skips_iff.mp h)]

/-- Editing skipped lines changes none of the entries. -/
theorem filterMap_entryOf? {edited : List (List Char)} (h : Edited layout ls edited) :
    edited.filterMap layout.entryOf? = ls.filterMap layout.entryOf? := by
  induction h with
  | refl => rfl
  | insert _ hskips ih => rw [filterMap_insert hskips, ih]
  | delete _ hskips ih => rw [← filterMap_insert hskips, ih]

/-- Lines of which all are skipped may come in anywhere. -/
theorem insert_all {inserted : List (List Char)} (h : ∀ line ∈ inserted, layout.Skips line) :
    Edited layout (before ++ after) (before ++ (inserted ++ after)) := by
  induction inserted with
  | nil => exact .refl
  | cons line rest ih =>
      exact .insert (ih fun l hl => h l (List.mem_cons_of_mem line hl)) (h line List.mem_cons_self)

end Edited

-- ============================================================== datasets

variable {text edited : String}

/-- What is made of records whatever their numbers survives edits. -/
theorem map_records_scan_edited {α : Type} (ofRecord : Record → α) (ofEntry : Entry → α)
    (hof : ∀ e n, ofRecord (e.record n) = ofEntry e)
    (h : Edited layout (lines text.toList) (lines edited.toList)) :
    (scan layout edited).records.map ofRecord = (scan layout text).records.map ofRecord := by
  rw [map_records_scan ofRecord ofEntry hof, map_records_scan ofRecord ofEntry hof,
    h.filterMap_entryOf?]

/-- So does what is gathered from keys and values, record after record. -/
theorem foldl_records_scan_edited {σ : Type} (step : σ → String × List String → σ) (s : σ)
    (h : Edited layout (lines text.toList) (lines edited.toList)) :
    (scan layout edited).records.foldl (fun s r => step s (r.key, r.values)) s
      = (scan layout text).records.foldl (fun s r => step s (r.key, r.values)) s := by
  have hsaid := map_records_scan_edited (fun r => (r.key, r.values))
    (fun e => (String.ofList e.key, e.values.map String.ofList)) (fun _ _ => rfl) h
  rw [← List.foldl_map (f := fun r : Record => (r.key, r.values)), hsaid, List.foldl_map]

/-- A roster stays the same under edits of skipped lines. -/
theorem ofRecords_scan_edited (h : Edited layout (lines text.toList) (lines edited.toList)) :
    Roster.ofRecords (scan layout edited).records = Roster.ofRecords (scan layout text).records :=
  foldl_records_scan_edited (fun (r : Roster) said => r.enrol said.1 said.2) ∅ h

/-- A fixed list stays the same under edits of skipped lines. -/
theorem fixedOf_edited
    (h : Edited Dataset.fixedWhitelist.layout (lines text.toList) (lines edited.toList)) :
    Whitelist.fixedOf edited = Whitelist.fixedOf text := by
  have hkeys := map_records_scan_edited (·.key) (fun e => String.ofList e.key) (fun _ _ => rfl) h
  exact congrArg (∅ : Names).insertMany hkeys

/-- Entries of passwords stay the same under edits of skipped lines. -/
theorem credentialsOf_edited
    (h : Edited Dataset.passwords.layout (lines text.toList) (lines edited.toList)) :
    Passwords.credentialsOf edited = Passwords.credentialsOf text :=
  foldl_records_scan_edited
    (fun users said => Passwords.insertRecord users said.1 said.2) ∅ h

/-- Whole lines that are skipped, put between two parts of a text, are
such an edit. -/
theorem edited_of_insertion {a c : String} (ha : Ended a.toList) (hc : Ended c.toList) (b : String)
    (hskips : ∀ line ∈ lines c.toList, layout.Skips line) :
    Edited layout (lines (a ++ b).toList) (lines (a ++ c ++ b).toList) := by
  rw [String.append_assoc, String.toList_append, String.toList_append, String.toList_append,
    lines_append ha, lines_append ha, lines_append hc]
  exact Edited.insert_all hskips

-- ============================================================== the laws

/-- A line is read for itself. A text that ends with a newline, if with
anything, can be continued: the contents are continued, with the numbers
moved on, and a text is refused just if a part of it is. Every line that
says something is read once, in one of the two lists, and nothing else is
read. So no dataset changes by edits of lines that are skipped, such as
putting some of them between two parts of its text. -/
theorem lines_are_read_apart :
    (∀ (layout : Layout) (a b : String), Ended a.toList →
        parse layout (a ++ b) = (do
          let first ← parse layout a
          let rest ← parse layout b
          pure (first.continued (lines a.toList).length rest)))
      ∧ (∀ layout text c, parse layout text = .ok c → ReadsEachLine layout text c)
      ∧ (∀ layout : Layout, layout.Keyed → ∀ text, ∃ c, parse layout text = .ok c)
      ∧ (∀ text edited : String,
          (Edited Dataset.groups.layout (lines text.toList) (lines edited.toList) →
              Groups.rosterOf edited = Groups.rosterOf text)
            ∧ (Edited Dataset.variableWhitelist.layout (lines text.toList) (lines edited.toList) →
                Whitelist.variableOf edited = Whitelist.variableOf text)
            ∧ (Edited Dataset.fixedWhitelist.layout (lines text.toList) (lines edited.toList) →
                Whitelist.fixedOf edited = Whitelist.fixedOf text)
            ∧ (Edited Dataset.passwords.layout (lines text.toList) (lines edited.toList) →
                Passwords.credentialsOf edited = Passwords.credentialsOf text))
      ∧ ∀ (layout : Layout) (a c b : String), Ended a.toList → Ended c.toList →
          (∀ line ∈ lines c.toList, layout.Skips line) →
            Edited layout (lines (a ++ b).toList) (lines (a ++ c ++ b).toList) := by
  refine ⟨fun layout a b ha => parse_append layout ha b, fun layout text c hc => ?_,
    fun layout hkeyed text => ⟨_, parse_eq_ok hkeyed text⟩, fun text edited => ?_,
    fun layout a c b ha hc hskips => edited_of_insertion ha hc b hskips⟩
  · rw [parse_eq_ite] at hc
    split at hc
    case isTrue => cases hc
    case isFalse =>
      obtain rfl := Except.ok.inj hc
      exact readsEachLine_scan layout text
  · exact ⟨ofRecords_scan_edited, ofRecords_scan_edited, fixedOf_edited, credentialsOf_edited⟩

/-- A group file with a comment, an empty line and a word alone put in. -/
theorem lines_are_read_apart_groups :
    let a := "ann = ops,dev\r\n"
    let c := "# left\n\nlonely\n"
    let b := "bob=dev"
    parse Dataset.groups.layout (a ++ b)
        = .ok ⟨[⟨1, "ann", ["ops", "dev"]⟩, ⟨2, "bob", ["dev"]⟩], []⟩
      ∧ ReadsEachLine Dataset.groups.layout (a ++ b)
          ⟨[⟨1, "ann", ["ops", "dev"]⟩, ⟨2, "bob", ["dev"]⟩], []⟩
      ∧ Groups.rosterOf (a ++ c ++ b) = Groups.rosterOf (a ++ b) := by
  intro a c b
  obtain ⟨hjoined, hreads, -, hdatasets, hinserted⟩ := lines_are_read_apart
  have ha : Ended a.toList := .inr (by decide)
  have hc : Ended c.toList := .inr (by decide)
  have hparse : parse Dataset.groups.layout (a ++ b)
      = .ok ⟨[⟨1, "ann", ["ops", "dev"]⟩, ⟨2, "bob", ["dev"]⟩], []⟩ := by
    rw [hjoined _ a b ha]
    decide
  refine ⟨hparse, hreads _ _ _ hparse, (hdatasets _ _).1 (hinserted _ a c b ha hc ?_)⟩
  have hnone : ∀ line ∈ lines c.toList, Dataset.groups.layout.entryOf? line = none := by decide
  exact fun line hline => Layout.skips_iff.mpr (hnone line hline)

end Warden
