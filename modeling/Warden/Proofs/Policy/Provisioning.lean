/-
The password that a line was written for is the user's.

# Contents

`provision` is the line that gives a user a password and asks for it. Its
three fields are the name, the digest and `true`, and the line is one that
the layout of the password file admits (`admits_provision`), for a digest
is written without blanks and without colons. So reading finds the three
fields as they were written (`assigns_of_trim_eq_provision`), the digest
field is a digest, and `provisioned` says who gets in by it: whoever
supplies a password of the same digest.
-/
import Warden.Proofs.Digest
import Warden.Proofs.Policy.Login
import Warden.Proofs.Record.RoundTrip

namespace Warden

open Text

namespace Passwords

variable {algorithm : Algorithm} {text user password : String}

-- ============================================================== one line

/-- A user that a line can begin with. -/
structure IsName (user : String) : Prop where
  ne_empty : user ≠ ""
  trimmed : trim user.toList = user.toList
  noColon : ':' ∉ user.toList
  noNewline : '\n' ∉ user.toList
  noComment : user.toList.head? ≠ some '#'

/-- The line that gives a user a password and asks for it. -/
def provision (algorithm : Algorithm) (user password : String) : String :=
  user ++ ":" ++ algorithm.hexDigest password ++ ":true"

/-- What the line writes. -/
def provisioning (algorithm : Algorithm) (user password : String) : Entry :=
  ⟨user.toList, [(algorithm.hexDigest password).toList, "true".toList]⟩

/-- A provisioned line is written as an entry of three fields. -/
theorem toList_provision :
    (provision algorithm user password).toList
      = (Layout.fields ':' 3).write (provisioning algorithm user password) := by
  simp [provision, provisioning, Layout.write, List.intercalate_cons_cons]

/-- The layout of password files admits it. -/
theorem admits_provision (hname : IsName user) :
    (Layout.fields ':' 3).Admits (provisioning algorithm user password) := by
  have hplain : Layout.Plain user.toList := ⟨hname.trimmed, hname.noNewline⟩
  refine ⟨by decide, hplain, ?_, rfl, ?_, by simp [provisioning]⟩
  · have hne : user.toList ≠ [] := by simpa using hname.ne_empty
    exact (isSilent_eq_false_iff _).mpr ⟨hne, hname.noComment⟩
  · intro field hfield
    simp only [provisioning, List.mem_cons, List.not_mem_nil, or_false] at hfield
    rcases hfield with rfl | rfl | rfl
    · exact ⟨hplain, hname.noColon⟩
    · exact ⟨algorithm.plain_hexDigest password, algorithm.colon_notMem_hexDigest password⟩
    · exact ⟨by decide, by decide⟩

/-- Reading the line, with blanks around it or without, finds the three
fields as they were written. -/
theorem assigns_of_trim_eq_provision (hname : IsName user) {line : List Char}
    (hline : trim line = (provision algorithm user password).toList) :
    Assigns ':' line user (algorithm.hexDigest password) "true" := by
  have hadmits : (Layout.fields ':' 3).Admits (provisioning algorithm user password) :=
    admits_provision hname
  have hread := Layout.entryOf?_write hadmits
  obtain ⟨⟨htrim, -⟩, -⟩ := hadmits.write
  refine entryOf?_fields_three.mp (Eq.trans ?_ hread)
  rw [toList_provision] at hline
  unfold Layout.entryOf?
  rw [hline, htrim]

/-- A digest is never one of the words for none. -/
theorem not_unset_hexDigest : ¬ Unset (algorithm.hexDigest password) :=
  not_or.mpr ⟨algorithm.hexDigest_ne_empty password, algorithm.not_null_isSuffix_hexDigest password⟩

-- ============================================================== whole file

/-- The last line of a text that assigns fields to the user is this one,
blanks around it aside. -/
def LastLine (text user line : String) : Prop :=
  ∃ before l after, lines text.toList = before ++ l :: after ∧ trim l = line.toList
    ∧ ∀ l ∈ after, ∀ digest enabled, ¬ Assigns ':' l user digest enabled

/-- The last line of a user assigns what it writes. -/
theorem lastAssigned_of_lastLine (hname : IsName user)
    (h : LastLine text user (provision algorithm user password)) :
    LastAssigned text user (algorithm.hexDigest password) "true" := by
  obtain ⟨before, line, after, hlines, hline, hafter⟩ := h
  exact ⟨before, line, after, hlines, assigns_of_trim_eq_provision hname hline, hafter⟩

/-- If the last line of a user is the one written for a password, then a
reload with checking on succeeds, and the user's password is right exactly
if it has the digest that was written. So the password that the line was
written for is right, and one of another digest is incorrect. The written
digest is thirty-two lower case hexadecimal digits, is read back as it
was written, between a name and a switch, and is not taken for none. -/
theorem provisioned {config : PasswordConfig} {files : FileSystem} (hon : config.enabled = true)
    (hfound : files.Supplies config.file text) (p : Passwords) (hname : IsName user)
    (hpassword : password ≠ "")
    (hlast : LastLine text user (provision p.algorithm user password)) :
    ∃ next, (p.reload config files).value = (.ok (), next)
      ∧ next.check user (some password) = .ok ()
      ∧ (∀ supplied, supplied ≠ "" →
          (next.check user (some supplied) = .ok ()
              ↔ p.algorithm.hexDigest supplied = p.algorithm.hexDigest password)
            ∧ (p.algorithm.hexDigest supplied ≠ p.algorithm.hexDigest password →
              next.check user (some supplied) = .error (.incorrect user)))
      ∧ (p.algorithm.hexDigest password).length = 32
      ∧ (∀ c ∈ (p.algorithm.hexDigest password).toList, IsHexDigit c)
      ∧ LastAssigned text user (p.algorithm.hexDigest password) "true"
      ∧ ¬ Unset (p.algorithm.hexDigest password) := by
  have hassigned := lastAssigned_of_lastLine hname hlast
  have hcompared := (decides_of_lastAssigned p.algorithm hassigned).compared rfl not_unset_hexDigest
  refine ⟨ofText p.algorithm text, value_reload_of_supplies hon hfound p,
    (hcompared password hpassword).1 rfl, fun supplied hsupplied => ?_,
    p.algorithm.length_hexDigest password, fun c hc => Algorithm.isHexDigit_of_mem_hexDigest hc,
    hassigned, not_unset_hexDigest⟩
  obtain ⟨hright, hwrong⟩ := hcompared supplied hsupplied
  refine ⟨⟨fun hok => ?_, hright⟩, hwrong⟩
  by_contra hdiffers
  rw [hwrong hdiffers] at hok
  cases hok

/-- Between a line of another digest and one that is too short. -/
theorem provisioned_ann :
    let text := "ann:none:true\n ann:900150983cd24fb0d6963f7d28e17f72:true \nann:null\n"
    let files := (FileSystem.empty []).write "passwords" (utf8 text)
    let config : PasswordConfig := { enabled := true, file := some "passwords" }
    IsName "ann" ∧ LastLine text "ann" (provision .md5 "ann" "abc")
      ∧ ∃ next, ((new .md5).reload config files).value = (.ok (), next)
        ∧ next.check "ann" (some "abc") = .ok ()
        ∧ next.check "ann" (some "none") = .error (.incorrect "ann") := by
  intro text files config
  have hname : IsName "ann" := ⟨by decide, by decide, by decide, by decide, by decide⟩
  have hline : provision .md5 "ann" "abc" = "ann:900150983cd24fb0d6963f7d28e17f72:true" := by
    decide +kernel
  have hlast : LastLine text "ann" (provision .md5 "ann" "abc") := by
    refine ⟨["ann:none:true".toList], " ann:900150983cd24fb0d6963f7d28e17f72:true ".toList,
      ["ann:null".toList], by decide, by rw [hline]; decide, fun l hl digest enabled hassigns => ?_⟩
    have hnone : (Layout.fields ':' 3).entryOf? "ann:null".toList = none := by decide
    rw [List.mem_singleton.mp hl] at hassigns
    rw [entryOf?_fields_three.mpr hassigns] at hnone
    cases hnone
  have hon : config.enabled = true := rfl
  have hfound : files.Supplies config.file text := ⟨"passwords", rfl, by decide, by decide⟩
  obtain ⟨next, hnext, hright, hothers, -⟩ :=
    provisioned hon hfound (new .md5) hname (by decide) hlast
  exact ⟨hname, hlast, next, hnext, hright, (hothers "none" (by decide)).2 (by decide +kernel)⟩

end Passwords

end Warden
