/-
For which key a line of keys and values speaks.

# Contents

The key of a line is its first token. So it is what stands before the
first delimiter if the line does not begin with one, and else what stands
before the next delimiter that has anything in front of it: leading
delimiters do not count (`key_of_mem_records`).

# Addresses with colons

On the variable list the delimiter is a colon, and an address may have
colons of its own. Such an address is never the key of its line. Where
more than one of its parts is not blank the line has too many tokens and
is reported. Where just one is, as in `::1`, that part is the key, and
the users may connect from there (`gives_cons_iff`). The two are put
together in `line_speaks_for_first_token`; `leading_colons_shift_key` is
the smallest case where the key is not what stands before the first
colon.
-/
import Warden.Proofs.Policy.Access

namespace Warden

open Text

variable {d : Char} {line address users : List Char} {text other user : String}

-- =============================================================== the key

/-- The key of a record is the first token of its line. -/
theorem key_of_mem_records {r : Record} (hr : r ∈ (scan (.keyValues d) text).records) :
    ∃ line, 1 ≤ r.lineNo ∧ (lines text.toList)[r.lineNo - 1]? = some line
      ∧ (tokens d (trim line)).head? = some r.key.toList := by
  obtain ⟨i, line, e, hline, he, rfl⟩ := mem_records_scan.mp hr
  obtain ⟨-, -, field, htokens, -⟩ := entryOf?_keyValues.mp he
  refine ⟨line, Nat.le_add_left 1 i, by simpa [Entry.record] using hline, ?_⟩
  rw [tokens_trim, htokens]
  simp [Entry.record]

-- ================================================= addresses with colons

/-- A line gives nothing to an address that has the delimiter in it. -/
theorem Gives.key_ne (h : Gives d line other user) (hd : d ∈ address) : other.toList ≠ address := by
  obtain ⟨-, field, htokens, -⟩ := h
  have hmem : other.toList ∈ tokens d line := by simp [htokens]
  have hfree : d ∉ other.toList := notMem_of_mem_tokens d hmem
  rintro rfl
  exact hfree hd

/-- Users without the delimiter are the last token of their line. -/
theorem tokens_of_users (hfree : d ∉ users) (huser : tokens ',' users ≠ []) :
    tokens d users = [trim users] := by
  have hne : trim users ≠ [] := by
    intro hnil
    rw [← tokens_trim, hnil] at huser
    exact huser rfl
  simp [tokens, pieces_of_notMem d hfree, hne]

/-- A line of an address and some users gives the users to the only part
of the address that is not blank, if there is just one. -/
theorem gives_cons_iff (hfree : d ∉ users) (huser : tokens ',' users ≠ []) :
    Gives d (address ++ d :: users) other user
      ↔ ¬ IsComment (address ++ d :: users) ∧ tokens d address = [other.toList]
        ∧ user.toList ∈ tokens ',' users := by
  unfold Gives
  rw [tokens_append_cons, tokens_of_users hfree huser]
  refine and_congr_right fun _ => ?_
  constructor
  · rintro ⟨field, htokens, hvalue⟩
    have hjoined : tokens d address ++ [trim users] = [other.toList] ++ [field] := htokens
    obtain ⟨haddress, hfield⟩ := List.append_inj' hjoined rfl
    obtain rfl : trim users = field := List.singleton_inj.mp hfield
    exact ⟨haddress, by rwa [tokens_trim] at hvalue⟩
  · rintro ⟨haddress, hvalue⟩
    refine ⟨trim users, by rw [haddress, List.singleton_append], ?_⟩
    rwa [tokens_trim]

/-- A line that has something but no key with a value is reported. -/
theorem exists_mem_invalid {i : Nat} (hline : (lines text.toList)[i]? = some line)
    (hsome : trim line ≠ []) (hcomment : ¬ IsComment line)
    (hnone : ∀ other user, ¬ Gives d line other user) :
    ∃ fields, (⟨i + 1, String.ofList (trim line), fields⟩ : InvalidLine)
      ∈ (scan (.keyValues d) text).invalid := by
  cases hread : (Layout.keyValues d).read (trim line) with
  | error refusal =>
      have hspeaks : isSilent (trim line) = false :=
        (isSilent_eq_false_iff _).mpr ⟨hsome, hcomment⟩
      exact ⟨refusal.fields, mem_invalid_scan hline hspeaks hread⟩
  | ok e =>
      have he : (Layout.keyValues d).entryOf? line = some e :=
        Layout.entryOf?_eq_some_iff.mpr ⟨hsome, hcomment, hread⟩
      obtain ⟨v, hv⟩ := List.exists_mem_of_ne_nil _ (entryOf?_keyValues.mp he).2.1
      refine absurd (exists_entryOf?_keyValues.mp ⟨e, he, ?_, ?_⟩)
        (hnone (String.ofList e.key) (String.ofList v))
      · exact String.toList_ofList.symm
      · rwa [String.toList_ofList]

namespace Whitelist

/-- A line lets connect whom it gives to an address, and nobody else. -/
theorem permits_insert_iff {fixed without inserted : String} {before after : List (List Char)}
    (hinserted : lines inserted.toList = before ++ line :: after)
    (hwithout : lines without.toList = before ++ after) :
    Permits fixed inserted other user ↔ Permits fixed without other user ∨ Gives ':' line other user := by
  unfold Permits
  rw [hinserted, hwithout]
  simp only [List.mem_append, List.mem_cons]
  grind

/-- Every text of keys and values is read, and the key of a record is the
trimmed text before the first delimiter after those that its trimmed line
begins with, blanks among them aside; so it is the trimmed text before
the first delimiter if the line does not begin with one.

On the variable list, a line of an address with colons and of users never
gives the address itself anything: whoever it lets connect does so from
the key. Where the users have no colon of their own, the key is the only
part of the address that is not blank, and a line of an address with no
such part or several lets nobody connect. A line that gives nothing is
reported, unless it is a comment. -/
theorem line_speaks_for_first_token :
    (∀ d text, ∃ contents, parse (.keyValues d) text = .ok contents
        ∧ ∀ r ∈ contents.records, ∃ line, 1 ≤ r.lineNo
          ∧ (lines text.toList)[r.lineNo - 1]? = some line
          ∧ r.key.toList = trim (beforeFirst d (dropLeading d (trim line)))
          ∧ ((trim line).head? ≠ some d → r.key.toList = trim (beforeFirst d (trim line))))
      ∧ ∀ address users : List Char, ':' ∈ address →
          let line := address ++ ':' :: users
          (∀ other user, Gives ':' line other user →
              other.toList ≠ address
                ∧ other.toList = trim (beforeFirst ':' (dropLeading ':' (trim line))))
            ∧ (':' ∉ users → tokens ',' users ≠ [] → ∀ other user,
                Gives ':' line other user
                  ↔ ¬ IsComment line ∧ tokens ':' address = [other.toList]
                    ∧ user.toList ∈ tokens ',' users)
            ∧ (∀ text i, (lines text.toList)[i]? = some line → ¬ IsComment line →
                (∀ other user, ¬ Gives ':' line other user) →
                  ∃ contents fields, parse (.keyValues ':') text = .ok contents
                    ∧ ⟨i + 1, String.ofList (trim line), fields⟩ ∈ contents.invalid)
            ∧ ∀ (w v : Whitelist) (config config' : WhitelistConfig) (files files' : FileSystem)
                (fixed inserted without : String) (before after : List (List Char)),
                lines inserted.toList = before ++ line :: after →
                lines without.toList = before ++ after →
                Finds config files fixed inserted → Finds config' files' fixed without →
                  ∀ other user,
                    (w.reload config files).value.2.check other user = .ok ()
                      ↔ (v.reload config' files').value.2.check other user = .ok ()
                        ∨ Gives ':' line other user := by
  refine ⟨fun d text => ?_, fun address users hcolon => ?_⟩
  · refine ⟨scan (.keyValues d) text, parse_eq_ok (by trivial) text, fun r hr => ?_⟩
    obtain ⟨line, hnumber, hline, hkey⟩ := key_of_mem_records hr
    have hfirst := head?_tokens d hkey
    refine ⟨line, hnumber, hline, hfirst, fun hstart => ?_⟩
    rwa [dropLeading_eq_self d hstart (trimmed_trim line).1] at hfirst
  · intro line
    refine ⟨fun other user hgives => ⟨hgives.key_ne hcolon, ?_⟩,
      fun hfree huser other user => gives_cons_iff hfree huser, ?_, ?_⟩
    · obtain ⟨-, field, htokens, -⟩ := hgives
      refine head?_tokens ':' ?_
      rw [tokens_trim, htokens, List.head?_cons]
    · intro text i hline hcomment hnone
      have hsome : trim line ≠ [] := trim_ne_nil (List.mem_append_left _ hcolon) (by decide)
      obtain ⟨fields, hreported⟩ := exists_mem_invalid hline hsome hcomment hnone
      exact ⟨_, fields, parse_eq_ok (by trivial) text, hreported⟩
    · intro w v config config' files files' fixed inserted without before after hinserted hwithout
        hfinds hfinds' other user
      rw [value_reload_of_finds hfinds w, value_reload_of_finds hfinds' v, check_eq_ok_iff,
        check_eq_ok_iff]
      exact permits_insert_iff hinserted hwithout

/-- An address with one part that is not blank, and one with two. -/
theorem line_speaks_for_first_token_of_address :
    Gives ':' "::1:bob".toList "1" "bob"
      ∧ ∃ contents fields, parse (.keyValues ':') "fe80::1:bob\n" = .ok contents
        ∧ ⟨1, "fe80::1:bob", fields⟩ ∈ contents.invalid := by
  obtain ⟨-, hlines⟩ := line_speaks_for_first_token
  obtain ⟨-, hone, -⟩ := hlines "::1".toList "bob".toList (by decide)
  obtain ⟨-, htwo, hreported, -⟩ := hlines "fe80::1".toList "bob".toList (by decide)
  refine ⟨(hone (by decide) (by decide) "1" "bob").mpr (by decide), ?_⟩
  refine hreported "fe80::1:bob\n" 0 (by decide) (by decide) fun other user hgives => ?_
  obtain ⟨-, htokens, -⟩ := (htwo (by decide) (by decide) other user).mp hgives
  have hparts : (tokens ':' "fe80::1".toList).length = 2 := by decide
  rw [htokens] at hparts
  cases hparts

/-- The smallest address with an empty part in front: its line is not
reported, its key is not what stands before the first colon, and the user
may connect from another address and not from the one that is written. -/
theorem leading_colons_shift_key :
    let files := ((FileSystem.empty []).write "fixed" (utf8 "10.0.0.1\n")).write "variable"
      (utf8 "::1:bob\n")
    let config : WhitelistConfig :=
      { enabled := true, fixedFile := some "fixed", variableFile := some "variable" }
    let next := (new.reload config files).value.2
    parse (.keyValues ':') "::1:bob\n" = .ok ⟨[⟨1, "1", ["bob"]⟩], []⟩
      ∧ trim (beforeFirst ':' (trim "::1:bob".toList)) = "".toList
      ∧ (new.reload config files).value.1 = .ok ()
      ∧ next.check "1" "bob" = .ok ()
      ∧ next.check "::1" "bob" = .error (.unknownAddress "::1" "bob") := by
  intro files config next
  have hfinds : Finds config files "10.0.0.1\n" "::1:bob\n" := by
    refine ⟨rfl, ⟨"fixed", rfl, by decide, by decide⟩, ⟨"variable", rfl, by decide, by decide⟩, ?_⟩
    exact ⟨"10.0.0.1".toList, by decide, "10.0.0.1", by decide⟩
  have hreload := value_reload_of_finds hfinds new
  have hnext : next = ofTexts "10.0.0.1\n" "::1:bob\n" := congrArg Prod.snd hreload
  rw [hnext]
  refine ⟨by decide, by decide, congrArg Prod.fst hreload, ?_, ?_⟩
  · exact check_eq_ok_iff.mpr (by decide)
  · refine check_eq_unknownAddress_iff.mpr ⟨by decide, ?_⟩
    rintro ⟨line, hline, user, hgives⟩
    have hlines : lines "::1:bob\n".toList = ["::1:bob".toList] := by decide
    rw [hlines, List.mem_singleton] at hline
    subst hline
    have hcolon : ':' ∈ "::1".toList := by decide
    exact hgives.key_ne hcolon rfl

end Whitelist

end Warden
