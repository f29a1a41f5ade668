/-
Who may connect, read off the texts of the two lists.

# Contents

After a reload that finds both lists, the decision on a connection is a
matter of their lines alone: `Permits` is that some line lets the user
connect from the address, `Mentions` that some line of the variable list
is about the address, and between them they leave one answer for each
connection (`check_ofTexts`).

# Order and repetition

Both ask whether there is a line of some kind, and never which. So the
lines of a list are as good in another order or written twice, and a
list that goes on after its last line permits what it permitted. That is
why `decides_by_lines` compares reloads by the lines that they find, and
why a line that is appended must not run into one that is there already
(`Extends`).
-/
import Warden.Proofs.Policy.Whitelist
import Warden.Proofs.Roster

namespace Warden

open Text

namespace Whitelist

variable {fixed variableList address user : String} {w : Whitelist}

-- ============================================================= the lists

/-- Some line lets the user connect from the address. -/
def Permits (fixed variableList address user : String) : Prop :=
  (∃ line ∈ lines fixed.toList, Lists line address)
    ∨ ∃ line ∈ lines variableList.toList, Gives ':' line address user

/-- Some line of the variable list is about the address. -/
def Mentions (variableList address : String) : Prop :=
  ∃ line ∈ lines variableList.toList, ∃ user, Gives ':' line address user

instance : Decidable (Permits fixed variableList address user) :=
  inferInstanceAs (Decidable (_ ∨ _))

/-- The fixed list has the addresses that its lines are. -/
theorem contains_fixedOf :
    (fixedOf fixed).contains address = true ↔ ∃ line ∈ lines fixed.toList, Lists line address := by
  rw [fixedOf, Std.TreeSet.contains_insertMany_list]
  simp only [Std.TreeSet.contains_emptyc, Bool.false_or, List.contains_iff_mem, List.mem_map]
  constructor
  · rintro ⟨record, hrecord, rfl⟩
    obtain ⟨i, line, e, hline, he, rfl⟩ := mem_records_scan.mp hrecord
    have hvalues : e.values = [] := by
      obtain ⟨-, -, hread⟩ := Layout.entryOf?_eq_some_iff.mp he
      injection hread with hread
      rw [← hread]
    refine ⟨line, List.mem_of_getElem? hline, entryOf?_list.mp ?_⟩
    rw [he]
    simp [Entry.record, ← hvalues]
  · rintro ⟨line, hline, hlists⟩
    obtain ⟨i, hi⟩ := List.getElem?_of_mem hline
    refine ⟨_, mem_records_scan.mpr ⟨i, line, _, hi, entryOf?_list.mpr hlists, rfl⟩, ?_⟩
    exact String.ofList_toList

/-- A list that names some address has records. -/
theorem records_ne_nil (h : ∃ line ∈ lines fixed.toList, ∃ address, Lists line address) :
    (scan .list fixed).records ≠ [] := by
  obtain ⟨line, hline, address, hlists⟩ := h
  obtain ⟨i, hi⟩ := List.getElem?_of_mem hline
  exact List.ne_nil_of_mem
    (mem_records_scan.mpr ⟨i, line, _, hi, entryOf?_list.mpr hlists, rfl⟩)

-- =========================================================== the decision

/-- The whitelist that two texts make, with checking on. -/
def ofTexts (fixed variableList : String) : Whitelist :=
  ⟨true, ⟨fixedOf fixed⟩, ⟨variableOf variableList⟩⟩

/-- The lines leave one of the three answers. -/
theorem check_ofTexts (fixed variableList address user : String) :
    let answer := (ofTexts fixed variableList).check address user
    (Permits fixed variableList address user ∧ answer = .ok ())
      ∨ (¬ Permits fixed variableList address user ∧ Mentions variableList address
        ∧ answer = .error (.userNotAllowed address user))
      ∨ (¬ Permits fixed variableList address user ∧ ¬ Mentions variableList address
        ∧ answer = .error (.unknownAddress address user)) := by
  intro answer
  have hanswer : answer
      = judge true (fixedOf fixed) (Roster.ofText ':' variableList) address user := rfl
  rw [hanswer, judge, Bool.not_true, if_neg Bool.false_ne_true]
  -- An address on the fixed list is not looked up on the other one.
  by_cases hany : (fixedOf fixed).contains address = true
  · rw [if_pos hany]
    exact Or.inl ⟨Or.inl (contains_fixedOf.mp hany), rfl⟩
  · rw [if_neg hany]
    have hnone : ¬ ∃ line ∈ lines fixed.toList, Lists line address :=
      fun h => hany (contains_fixedOf.mpr h)
    cases hfind : (Roster.ofText ':' variableList).find? address with
    | none =>
        have hsilent := (Roster.find?_ofText_eq_none_iff ':' variableList).mp hfind
        have hmention : ¬ Mentions variableList address :=
          fun ⟨line, hline, other, hgives⟩ => hsilent line hline other hgives
        refine Or.inr (Or.inr ⟨?_, hmention, rfl⟩)
        rintro (h | ⟨line, hline, hgives⟩)
        · exact hnone h
        · exact hmention ⟨line, hline, user, hgives⟩
    | some users =>
        have huser : users.contains user = true
            ↔ ∃ line ∈ lines variableList.toList, Gives ':' line address user := by
          rw [← Roster.lists_ofText, Roster.lists, hfind, Option.any_some]
        have hmention : Mentions variableList address := by
          by_contra hnot
          have hall : ∀ line ∈ lines variableList.toList, ∀ other,
              ¬ Gives ':' line address other :=
            fun line hline other hgives => hnot ⟨line, hline, other, hgives⟩
          rw [(Roster.find?_ofText_eq_none_iff ':' variableList).mpr hall] at hfind
          cases hfind
        by_cases hallowed : users.contains user = true
        · exact Or.inl ⟨Or.inr (huser.mp hallowed), if_pos hallowed⟩
        · refine Or.inr (Or.inl ⟨?_, hmention, if_neg hallowed⟩)
          rintro (h | h)
          · exact hnone h
          · exact hallowed (huser.mpr h)

/-- Permitted is who the lines permit. -/
theorem check_eq_ok_iff :
    (ofTexts fixed variableList).check address user = .ok ()
      ↔ Permits fixed variableList address user := by
  rcases check_ofTexts fixed variableList address user with
    ⟨hp, ha⟩ | ⟨hp, -, ha⟩ | ⟨hp, -, ha⟩
  · simp [ha, hp]
  · simp [ha, hp]
  · simp [ha, hp]

/-- Refused as a user is who uses an address that the lines give to others
alone. -/
theorem check_eq_userNotAllowed_iff :
    (ofTexts fixed variableList).check address user = .error (.userNotAllowed address user)
      ↔ ¬ Permits fixed variableList address user ∧ Mentions variableList address := by
  rcases check_ofTexts fixed variableList address user with
    ⟨hp, ha⟩ | ⟨hp, hm, ha⟩ | ⟨hp, hm, ha⟩
  · simp [ha, hp]
  · simp [ha, hp, hm]
  · simp [ha, hm]

/-- Refused for the address is who uses one that no line mentions. -/
theorem check_eq_unknownAddress_iff :
    (ofTexts fixed variableList).check address user = .error (.unknownAddress address user)
      ↔ ¬ Permits fixed variableList address user ∧ ¬ Mentions variableList address := by
  rcases check_ofTexts fixed variableList address user with
    ⟨hp, ha⟩ | ⟨hp, hm, ha⟩ | ⟨hp, hm, ha⟩
  · simp [ha, hp]
  · simp [ha, hp, hm]
  · simp [ha, hp, hm]

/-- Texts that permit and mention alike decide alike. -/
theorem check_eq_check {fixed' variableList' : String}
    (hpermits : Permits fixed variableList address user ↔ Permits fixed' variableList' address user)
    (hmentions : Mentions variableList address ↔ Mentions variableList' address) :
    (ofTexts fixed variableList).check address user
      = (ofTexts fixed' variableList').check address user := by
  rcases check_ofTexts fixed variableList address user with
    ⟨hp, ha⟩ | ⟨hp, hm, ha⟩ | ⟨hp, hm, ha⟩
  · rw [ha, check_eq_ok_iff.mpr (hpermits.mp hp)]
  · rw [ha, check_eq_userNotAllowed_iff.mpr ⟨mt hpermits.mpr hp, hmentions.mp hm⟩]
  · rw [ha, check_eq_unknownAddress_iff.mpr ⟨mt hpermits.mpr hp, mt hmentions.mpr hm⟩]

-- ============================================================ the reload

/-- Settings with checking on, and files where both lists are found: the
fixed list has an address. -/
structure Finds (config : WhitelistConfig) (files : FileSystem)
    (fixed variableList : String) : Prop where
  on : config.enabled = true
  fixedFound : files.Supplies config.fixedFile fixed
  variableFound : files.Supplies config.variableFile variableList
  address : ∃ line ∈ lines fixed.toList, ∃ address, Lists line address

variable {config : WhitelistConfig} {files : FileSystem}

/-- A reload from files that can be read publishes what both hold. -/
theorem value_reload_of_finds (h : Finds config files fixed variableList) (w : Whitelist) :
    (w.reload config files).value = (.ok (), ofTexts fixed variableList) := by
  have hfixed : Dataset.fixedWhitelist.source files config.fixedFile = .ok fixed :=
    Dataset.source_eq_ok_iff.mpr ⟨h.fixedFound, fun _ => records_ne_nil h.address⟩
  have hvariable : Dataset.variableWhitelist.source files config.variableFile = .ok variableList :=
    Dataset.source_eq_ok_iff.mpr ⟨h.variableFound, fun hd => by cases hd⟩
  rw [value_reload_on _ _ w h.on, hfixed, hvariable]
  rfl

/-- A text, with or without further lines after its last one. -/
def Extends (text longer : String) : Prop :=
  longer = text ∨ Ended text.toList ∧ ∃ more, longer = text ++ more

theorem Extends.mem_lines {text longer : String} (h : Extends text longer) {line : List Char}
    (hline : line ∈ lines text.toList) : line ∈ lines longer.toList := by
  rcases h with rfl | ⟨hended, more, rfl⟩
  · exact hline
  · rw [String.toList_append, lines_append hended]
    exact List.mem_append_left _ hline

/-- More lines permit no less. -/
theorem Permits.mono {fixed' variableList' : String}
    (hfixed : ∀ line ∈ lines fixed.toList, line ∈ lines fixed'.toList)
    (hvariable : ∀ line ∈ lines variableList.toList, line ∈ lines variableList'.toList)
    (h : Permits fixed variableList address user) :
    Permits fixed' variableList' address user := by
  rcases h with ⟨line, hline, hlists⟩ | ⟨line, hline, hgives⟩
  · exact Or.inl ⟨line, hfixed line hline, hlists⟩
  · exact Or.inr ⟨line, hvariable line hline, hgives⟩

/-- More lines mention no less. -/
theorem Mentions.mono {variableList' : String}
    (hvariable : ∀ line ∈ lines variableList.toList, line ∈ lines variableList'.toList)
    (h : Mentions variableList address) : Mentions variableList' address := by
  obtain ⟨line, hline, user, hgives⟩ := h
  exact ⟨line, hvariable line hline, user, hgives⟩

/-- A reload that finds both lists succeeds. Then a connection is allowed
exactly if a line of the fixed list is its address or a line of the
variable list gives the user to the address; else it is refused for the
user if some line is about the address, and for the address if none is.
Another reload that finds the same lines, in any order and any number,
decides alike, and one that finds further lines allows no less. -/
theorem decides_by_lines (h : Finds config files fixed variableList) (w : Whitelist) :
    ∃ next, (w.reload config files).value = (.ok (), next)
      ∧ (∀ address user,
          (next.check address user = .ok () ↔ Permits fixed variableList address user)
          ∧ (next.check address user = .error (.userNotAllowed address user)
              ↔ ¬ Permits fixed variableList address user ∧ Mentions variableList address)
          ∧ (next.check address user = .error (.unknownAddress address user)
              ↔ ¬ Permits fixed variableList address user ∧ ¬ Mentions variableList address))
      ∧ ∀ (v : Whitelist) (config' : WhitelistConfig) (files' : FileSystem)
          (fixed' variableList' : String), Finds config' files' fixed' variableList' →
          let other := (v.reload config' files').value.2
          ((∀ line, line ∈ lines fixed'.toList ↔ line ∈ lines fixed.toList) →
            (∀ line, line ∈ lines variableList'.toList ↔ line ∈ lines variableList.toList) →
            ∀ address user, other.check address user = next.check address user)
          ∧ (Extends fixed fixed' → Extends variableList variableList' →
            ∀ address user, next.check address user = .ok () → other.check address user = .ok ()) := by
  refine ⟨ofTexts fixed variableList, value_reload_of_finds h w, ?_, ?_⟩
  · intro address user
    rw [check_eq_ok_iff, check_eq_userNotAllowed_iff, check_eq_unknownAddress_iff]
    exact ⟨Iff.rfl, Iff.rfl, Iff.rfl⟩
  · intro v config' files' fixed' variableList' h' other
    have hother : other = ofTexts fixed' variableList' :=
      congrArg Prod.snd (value_reload_of_finds h' v)
    rw [hother]
    refine ⟨fun hfixed hvariable address user => ?_, fun hfixed hvariable address user hok => ?_⟩
    · refine check_eq_check ⟨?_, ?_⟩ ⟨?_, ?_⟩
      · exact Permits.mono (fun line => (hfixed line).mp) fun line => (hvariable line).mp
      · exact Permits.mono (fun line => (hfixed line).mpr) fun line => (hvariable line).mpr
      · exact Mentions.mono fun line => (hvariable line).mp
      · exact Mentions.mono fun line => (hvariable line).mpr
    · rw [check_eq_ok_iff] at hok ⊢
      exact hok.mono (fun line => hfixed.mem_lines) fun line => hvariable.mem_lines

/-- With one address on the fixed list and two users for another. -/
theorem decides_by_lines_two_users :
    let files := ((FileSystem.empty []).write "fixed" (utf8 "10.0.0.1\n")).write "variable"
      (utf8 "10.0.0.2: ann, bob\n")
    let config : WhitelistConfig :=
      { enabled := true, fixedFile := some "fixed", variableFile := some "variable" }
    Finds config files "10.0.0.1\n" "10.0.0.2: ann, bob\n"
      ∧ ∃ next, (new.reload config files).value = (.ok (), next)
        ∧ next.check "10.0.0.1" "eve" = .ok ()
        ∧ next.check "10.0.0.2" "bob" = .ok ()
        ∧ next.check "10.0.0.2" "eve" = .error (.userNotAllowed "10.0.0.2" "eve")
        ∧ next.check "10.0.0.3" "bob" = .error (.unknownAddress "10.0.0.3" "bob") := by
  intro files config
  have hfinds : Finds config files "10.0.0.1\n" "10.0.0.2: ann, bob\n" := by
    refine ⟨rfl, ⟨"fixed", rfl, by decide, by decide⟩, ⟨"variable", rfl, by decide, by decide⟩, ?_⟩
    exact ⟨"10.0.0.1".toList, by decide, "10.0.0.1", by decide⟩
  obtain ⟨next, hnext, hanswers, -⟩ := decides_by_lines hfinds new
  have hlines : lines "10.0.0.2: ann, bob\n".toList = ["10.0.0.2: ann, bob".toList] := by decide
  refine ⟨hfinds, next, hnext, ?_, ?_, ?_, ?_⟩
  · exact (hanswers "10.0.0.1" "eve").1.mpr (by decide)
  · exact (hanswers "10.0.0.2" "bob").1.mpr (by decide)
  · refine (hanswers "10.0.0.2" "eve").2.1.mpr ⟨by decide, ?_⟩
    exact ⟨"10.0.0.2: ann, bob".toList, by decide, "ann", by decide⟩
  · refine (hanswers "10.0.0.3" "bob").2.2.mpr ⟨by decide, ?_⟩
    rintro ⟨line, hline, user, -, field, htokens, -⟩
    rw [hlines, List.mem_singleton] at hline
    have hfirst : (tokens ':' "10.0.0.2: ann, bob".toList).head? ≠ some "10.0.0.3".toList := by
      decide
    rw [← hline, htokens] at hfirst
    exact hfirst rfl

end Whitelist

end Warden
