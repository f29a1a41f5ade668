/-
Whose password is right, read off the text of the password file.

# Contents

A text is taken line by line, and a line either assigns fields to its
user or leaves the entries as they are (`getElem?_enter_of_assigns`,
`getElem?_enter_of_not_assigns`). So the entry of a user is that of the
last line that assigns fields to the user (`LastAssigned`), and there is
none if no line does (`exists_lastAssigned_or`). What stands in earlier
lines, in lines of another shape and in comments is without effect, and
`answers_by_last_line` says what the last line decides.
-/
import Warden.Proofs.Policy.Passwords
import Warden.Proofs.Record.Lines

namespace Warden

open Text

namespace Passwords

variable {users : Credentials} {line : List Char} {text user digest enabled : String}

-- ============================================================== one line

/-- The entries after a record of a key and its values. -/
def insertRecord (users : Credentials) (key : String) : List String → Credentials
  | [digest, enabled] => users.insert key (.ofFields digest enabled)
  | _ => users

/-- The entries after a line. -/
def enter (users : Credentials) (line : List Char) : Credentials :=
  match (Layout.fields ':' 3).entryOf? line with
  | some e => insertRecord users (String.ofList e.key) (e.values.map String.ofList)
  | none => users

/-- The entries of a text are those after all its lines. -/
theorem credentialsOf_eq_foldl : credentialsOf text = (lines text.toList).foldl enter ∅ := by
  have hrecords := map_records_scan (fun r => (r.key, r.values))
    (fun e => (String.ofList e.key, e.values.map String.ofList)) (fun _ _ => rfl)
    (.fields ':' 3) text
  calc credentialsOf text
      = ((scan (.fields ':' 3) text).records.map fun r => (r.key, r.values)).foldl
          (fun users r => insertRecord users r.1 r.2) ∅ := by
        rw [List.foldl_map]
        rfl
    _ = (lines text.toList).foldl enter ∅ := by
        rw [hrecords, List.foldl_map, List.foldl_filterMap]
        congr 1
        funext users line
        unfold enter
        cases (Layout.fields ':' 3).entryOf? line <;> rfl

/-- A line that assigns a user something enters it. -/
theorem getElem?_enter_of_assigns (h : Assigns ':' line user digest enabled) :
    (enter users line)[user]? = some (.ofFields digest enabled) := by
  rw [enter, entryOf?_fields_three.mpr h]
  simp [insertRecord]

/-- Any other line leaves the user as it is. -/
theorem getElem?_enter_of_not_assigns
    (h : ∀ digest enabled, ¬ Assigns ':' line user digest enabled) :
    (enter users line)[user]? = users[user]? := by
  unfold enter
  split
  case h_2 => rfl
  case h_1 e he =>
    -- An entry of three fields has two values; any other changes nothing.
    match hvalues : e.values with
    | [digest, enabled] =>
        have hkey : String.ofList e.key ≠ user := by
          rintro rfl
          refine h (String.ofList digest) (String.ofList enabled) (entryOf?_fields_three.mp ?_)
          simp [he, ← hvalues]
        simp [insertRecord, Std.TreeMap.getElem?_insert, hkey]
    | [] => rfl
    | [_] => rfl
    | _ :: _ :: _ :: _ => rfl

-- ============================================================= all lines

/-- Lines that assign the user nothing leave it as it is. -/
theorem getElem?_foldl_enter {ls : List (List Char)}
    (h : ∀ line ∈ ls, ∀ digest enabled, ¬ Assigns ':' line user digest enabled) :
    (ls.foldl enter users)[user]? = users[user]? := by
  induction ls generalizing users with
  | nil => rfl
  | cons line rest ih =>
      rw [List.foldl_cons, ih fun l hl => h l (List.mem_cons_of_mem _ hl),
        getElem?_enter_of_not_assigns (h line List.mem_cons_self)]

/-- The last line of a text that assigns fields to the user assigns these. -/
def LastAssigned (text user digest enabled : String) : Prop :=
  ∃ before line after, lines text.toList = before ++ line :: after
    ∧ Assigns ':' line user digest enabled
    ∧ ∀ l ∈ after, ∀ d e, ¬ Assigns ':' l user d e

/-- The last of them is there if there is any. -/
theorem exists_lastAssigned_or (text user : String) :
    (∃ digest enabled, LastAssigned text user digest enabled)
      ∨ ∀ line ∈ lines text.toList, ∀ digest enabled, ¬ Assigns ':' line user digest enabled := by
  unfold LastAssigned
  -- A line is the last one only if none after it assigns anything, so the
  -- rest of the lines is asked first.
  induction lines text.toList with
  | nil => exact Or.inr fun line hline => absurd hline List.not_mem_nil
  | cons line rest ih =>
      rcases ih with ⟨digest, enabled, before, l, after, hrest, hassigns, hafter⟩ | hnone
      · exact Or.inl ⟨digest, enabled, line :: before, l, after, by rw [hrest, List.cons_append],
          hassigns, hafter⟩
      · by_cases hline : ∃ digest enabled, Assigns ':' line user digest enabled
        · obtain ⟨digest, enabled, hassigns⟩ := hline
          exact Or.inl ⟨digest, enabled, [], line, rest, rfl, hassigns, hnone⟩
        · refine Or.inr fun l hl digest enabled hassigns => ?_
          rcases List.mem_cons.mp hl with rfl | hmem
          · exact hline ⟨digest, enabled, hassigns⟩
          · exact hnone l hmem digest enabled hassigns

/-- What a user is assigned last is what is entered in the end. -/
theorem getElem?_credentialsOf_of_lastAssigned (h : LastAssigned text user digest enabled) :
    (credentialsOf text)[user]? = some (.ofFields digest enabled) := by
  obtain ⟨before, line, after, hlines, hassigns, hafter⟩ := h
  rw [credentialsOf_eq_foldl, hlines, List.foldl_append, List.foldl_cons,
    getElem?_foldl_enter hafter, getElem?_enter_of_assigns hassigns]

/-- Who is assigned nothing has no entry. -/
theorem getElem?_credentialsOf_eq_none
    (h : ∀ line ∈ lines text.toList, ∀ digest enabled, ¬ Assigns ':' line user digest enabled) :
    (credentialsOf text)[user]? = none := by
  rw [credentialsOf_eq_foldl, getElem?_foldl_enter h]
  rfl

-- =========================================================== the decision

/-- The passwords that a text makes, with checking on. -/
def ofText (algorithm : Algorithm) (text : String) : Passwords :=
  ⟨true, algorithm, ⟨credentialsOf text⟩⟩

/-- A reload from a file that can be read publishes what the file holds. -/
theorem value_reload_of_supplies {config : PasswordConfig} {files : FileSystem}
    (hon : config.enabled = true) (hfound : files.Supplies config.file text) (p : Passwords) :
    (p.reload config files).value = (.ok (), ofText p.algorithm text) := by
  have hsource : Dataset.passwords.source files config.file = .ok text :=
    Dataset.source_eq_ok_iff.mpr ⟨hfound, fun hd => by cases hd⟩
  rw [value_reload_on _ _ p hon, hsource]
  rfl

/-- A switch field that asks for the password: `true`, in any case. -/
def Asks (enabled : String) : Prop := enabled.toList.map Char.toLower = "true".toList

/-- A digest field that is none. -/
def Unset (digest : String) : Prop := digest = "" ∨ "null".toList <:+ digest.toList

/-- What the fields of a user's last line decide, each only where those
before leave it open. -/
structure Decides (algorithm : Algorithm) (user digest enabled : String)
    (check : Option String → Except PasswordDenied Unit) : Prop where
  waived : ¬ Asks enabled → ∀ password, check password = .ok ()
  notSet : Asks enabled → Unset digest → ∀ password, check password = .error (.notSet user)
  notSupplied : Asks enabled → ¬ Unset digest →
    check none = .error (.notSupplied user) ∧ check (some "") = .error (.notSupplied user)
  compared : Asks enabled → ¬ Unset digest → ∀ supplied, supplied ≠ "" →
    (algorithm.hexDigest supplied = digest → check (some supplied) = .ok ())
      ∧ (algorithm.hexDigest supplied ≠ digest →
          check (some supplied) = .error (.incorrect user))

/-- An entry is enabled by the words that ask for it. -/
theorem enabled_ofFields_iff :
    (Credential.ofFields digest enabled).enabled = true ↔ Asks enabled := by
  simp [Credential.ofFields, Asks]

/-- An unset digest leaves the entry without one. -/
theorem digest_ofFields_of_unset (h : Unset digest) :
    (Credential.ofFields digest enabled).digest = none := by
  have hnone : (digest = "" || Credential.noDigest.toList.isSuffixOf digest.toList) = true := by
    simpa [Unset, Credential.noDigest] using h
  exact if_pos hnone

/-- Any other digest is kept as it is written. -/
theorem digest_ofFields_of_not_unset (h : ¬ Unset digest) :
    (Credential.ofFields digest enabled).digest = some digest := by
  simpa [Credential.ofFields, Credential.noDigest, Unset] using h

/-- The last assignment of a user decides every check. -/
theorem decides_of_lastAssigned (algorithm : Algorithm)
    (h : LastAssigned text user digest enabled) :
    Decides algorithm user digest enabled ((ofText algorithm text).check user) := by
  have hentry := getElem?_credentialsOf_of_lastAssigned h
  refine ⟨fun hwaived password => ?_, fun hasks hunset password => ?_, fun hasks hset => ?_,
    fun hasks hset supplied hne => ?_⟩
  · have hoff : (Credential.ofFields digest enabled).enabled = false :=
      Bool.eq_false_iff.mpr (mt enabled_ofFields_iff.mp hwaived)
    simp [check, judge, ofText, hentry, hoff]
  · simp [check, judge, ofText, hentry, enabled_ofFields_iff.mpr hasks,
      digest_ofFields_of_unset hunset]
  · simp [check, judge, ofText, hentry, enabled_ofFields_iff.mpr hasks,
      digest_ofFields_of_not_unset hset]
  · simp only [check, judge, ofText, hentry, enabled_ofFields_iff.mpr hasks,
      digest_ofFields_of_not_unset hset, Bool.not_true, Bool.false_eq_true, if_false, hne]
    exact ⟨fun heq => if_pos heq, fun hdiffers => if_neg hdiffers⟩

/-- Who is assigned nothing is unknown, whatever the password. -/
theorem check_of_none (algorithm : Algorithm)
    (h : ¬ ∃ digest enabled, LastAssigned text user digest enabled) (password : Option String) :
    (ofText algorithm text).check user password = .error (.unknownUser user) := by
  have hnone := getElem?_credentialsOf_eq_none ((exists_lastAssigned_or text user).resolve_left h)
  simp [check, judge, ofText, hnone]

/-- A reload with checking on that finds the file succeeds. Then a user is
unknown if no line of the file assigns fields to the user, and else the
last line that does decides alone: by its switch field, its digest field,
whether a password is given and whether that has the digest, in this
order. Another reload whose file has the same last line for a user
answers the user alike, whatever other lines there are. -/
theorem answers_by_last_line {config : PasswordConfig} {files : FileSystem}
    (hon : config.enabled = true) (hfound : files.Supplies config.file text) (p : Passwords) :
    ∃ next, (p.reload config files).value = (.ok (), next)
      ∧ (∀ user,
          ((¬ ∃ digest enabled, LastAssigned text user digest enabled) →
            ∀ password, next.check user password = .error (.unknownUser user))
          ∧ ∀ digest enabled, LastAssigned text user digest enabled →
              Decides p.algorithm user digest enabled (next.check user))
      ∧ ∀ (q : Passwords) (config' : PasswordConfig) (files' : FileSystem) (text' : String),
          config'.enabled = true → files'.Supplies config'.file text' → q.algorithm = p.algorithm →
          ∀ user, (∀ digest enabled, LastAssigned text' user digest enabled
              ↔ LastAssigned text user digest enabled) →
            ∀ password, (q.reload config' files').value.2.check user password
              = next.check user password := by
  refine ⟨ofText p.algorithm text, value_reload_of_supplies hon hfound p, fun user => ⟨?_, ?_⟩, ?_⟩
  · exact fun hnone password => check_of_none p.algorithm hnone password
  · exact fun digest enabled hlast => decides_of_lastAssigned p.algorithm hlast
  · intro q config' files' text' hon' hfound' halgorithm user hsame password
    rw [value_reload_of_supplies hon' hfound' q, halgorithm]
    rcases exists_lastAssigned_or text user with ⟨digest, enabled, hlast⟩ | hnone
    · have hentry := getElem?_credentialsOf_of_lastAssigned hlast
      have hentry' := getElem?_credentialsOf_of_lastAssigned ((hsame digest enabled).mpr hlast)
      simp only [check, judge, ofText, hentry, hentry']
    · have hno : ¬ ∃ digest enabled, LastAssigned text user digest enabled := by
        rintro ⟨digest, enabled, before, line, after, hlines, hassigns, -⟩
        exact hnone line (by simp [hlines]) digest enabled hassigns
      have hno' : ¬ ∃ digest enabled, LastAssigned text' user digest enabled := by
        rintro ⟨digest, enabled, hlast⟩
        exact hno ⟨digest, enabled, (hsame digest enabled).mp hlast⟩
      rw [check_of_none p.algorithm hno, check_of_none p.algorithm hno']

/-- With a later line that is a comment and one that is too short. -/
theorem answers_by_last_line_ann :
    let text := "ann::true\nann:900150983cd24fb0d6963f7d28e17f72:TRUE\n# ann:null:true\nann:null\n"
    let files := (FileSystem.empty []).write "passwords" (utf8 text)
    let config : PasswordConfig := { enabled := true, file := some "passwords" }
    config.enabled = true ∧ files.Supplies config.file text
      ∧ ∃ next, ((new .md5).reload config files).value = (.ok (), next)
        ∧ next.check "ann" (some "abc") = .ok ()
        ∧ next.check "ann" (some "abd") = .error (.incorrect "ann")
        ∧ next.check "ann" none = .error (.notSupplied "ann")
        ∧ next.check "bob" (some "abc") = .error (.unknownUser "bob") := by
  intro text files config
  have hfound : files.Supplies config.file text :=
    ⟨"passwords", rfl, by decide, by decide⟩
  have hann : LastAssigned text "ann" "900150983cd24fb0d6963f7d28e17f72" "TRUE" := by
    refine ⟨["ann::true".toList], "ann:900150983cd24fb0d6963f7d28e17f72:TRUE".toList,
      ["# ann:null:true".toList, "ann:null".toList], by decide,
      entryOf?_fields_three.mp (by decide), fun line hline digest enabled hassigns => ?_⟩
    have hnone : ∀ line ∈ ["# ann:null:true".toList, "ann:null".toList],
        (Layout.fields ':' 3).entryOf? line = none := by decide
    have hsome := entryOf?_fields_three.mpr hassigns
    rw [hnone line hline] at hsome
    cases hsome
  have hbob : ¬ ∃ digest enabled, LastAssigned text "bob" digest enabled := by
    rintro ⟨digest, enabled, before, line, after, hlines, hassigns, -⟩
    have hkeys : ∀ line ∈ lines text.toList,
        ((Layout.fields ':' 3).entryOf? line).map (·.key) ≠ some "bob".toList := by decide
    exact hkeys line (by simp [hlines]) (by rw [entryOf?_fields_three.mpr hassigns]; rfl)
  have hon : config.enabled = true := rfl
  obtain ⟨next, hnext, hanswers, -⟩ := answers_by_last_line hon hfound (new .md5)
  have hdecides := (hanswers "ann").2 _ _ hann
  have hset : ¬ Unset "900150983cd24fb0d6963f7d28e17f72" := by
    unfold Unset
    decide
  refine ⟨hon, hfound, next, hnext, ?_, ?_, ?_, ?_⟩
  · exact (hdecides.compared rfl hset "abc" (by decide)).1 (by decide +kernel)
  · exact (hdecides.compared rfl hset "abd" (by decide)).2 (by decide +kernel)
  · exact (hdecides.notSupplied rfl hset).1
  · exact (hanswers "bob").1 hbob (some "abc")

end Passwords

end Warden
