/-
Who is in which group, read off the text of the group file.

# Contents

Three ways lead to a user's groups: asking for one group, taking all of
them, and the list that the administrative interface tells. They look at
one roster, so each of them is settled by which values stand under which
name in it (`hasGroup_iff_lists`, `mem_groupsOf_iff_lists`), and the
roster of a text has what the text's lines give. `Tells` says of a
mapping that all its answers are those of a text, and `tells_by_lines`
that a reload from the text leaves such a mapping.

# Lines

`Belongs` is that some line puts a user in a group. A line may name a
user and give no group, as `ann=,` does; it is no line of the layout and
counts for nothing, so being named by a valid line (`NamesUser`) and being
in some group are the same (`exists_belongs_iff`).
-/
import Warden.Proofs.Admin.Routing
import Warden.Proofs.Policy.Groups
import Warden.Proofs.Roster
import Warden.Proofs.Text.ByteOrder

namespace Warden

open Text

namespace Groups

variable {text user group : String}

-- ================================================================= lines

/-- Some line of a text puts the user in the group. -/
def Belongs (text user group : String) : Prop :=
  ∃ line ∈ lines text.toList, Gives '=' line user group

/-- A line is valid, and it is about the user. -/
def NamesUser (line : List Char) (user : String) : Prop :=
  ¬ IsComment line
    ∧ ∃ field, tokens '=' line = [user.toList, field] ∧ tokens ',' field ≠ []

instance : Decidable (Belongs text user group) :=
  inferInstanceAs (Decidable (∃ line ∈ lines text.toList, Gives '=' line user group))

/-- A line names a user if it gives the user some group. -/
theorem namesUser_iff {line : List Char} :
    NamesUser line user ↔ ∃ group, Gives '=' line user group := by
  constructor
  · rintro ⟨hcomment, field, htokens, hfield⟩
    obtain ⟨t, ht⟩ := List.exists_mem_of_ne_nil _ hfield
    refine ⟨String.ofList t, hcomment, field, htokens, ?_⟩
    rwa [String.toList_ofList]
  · rintro ⟨group, hcomment, field, htokens, hgroup⟩
    exact ⟨hcomment, field, htokens, List.ne_nil_of_mem hgroup⟩

/-- A user belongs somewhere if some line names the user. -/
theorem exists_belongs_iff :
    (∃ group, Belongs text user group) ↔ ∃ line ∈ lines text.toList, NamesUser line user := by
  constructor
  · rintro ⟨group, line, hline, hgives⟩
    exact ⟨line, hline, namesUser_iff.mpr ⟨group, hgives⟩⟩
  · rintro ⟨line, hline, hnames⟩
    obtain ⟨group, hgives⟩ := namesUser_iff.mp hnames
    exact ⟨group, line, hline, hgives⟩

-- =============================================================== answers

/-- Having a group is being listed with it in the published roster. -/
theorem hasGroup_iff_lists (g : Groups) :
    g.hasGroup user group = true ↔ g.published.current.lists user group = true := by
  unfold hasGroup Roster.lists
  cases g.published.current.find? user <;> simp

/-- A group is among those of a user if the published roster lists it there. -/
theorem mem_groupsOf_iff_lists (g : Groups) :
    group ∈ g.groupsOf user ↔ g.published.current.lists user group = true := by
  unfold groupsOf Roster.lists
  cases g.published.current.find? user <;> simp

/-- The mapping that a text makes. -/
def ofText (text : String) : Groups := ⟨⟨rosterOf text⟩⟩

/-- The roster of a text lists what its lines say. -/
theorem lists_rosterOf : (rosterOf text).lists user group = true ↔ Belongs text user group :=
  Roster.lists_ofText '=' text

/-- A reload from a file that can be read publishes what the file holds. -/
theorem value_reload_of_supplies {config : GroupsConfig} {files : FileSystem}
    (hfound : files.Supplies config.file text) (g : Groups) :
    (g.reload config files).value = (.ok (), ofText text) := by
  rw [value_reload, (source_eq_ok_iff files).mpr hfound]
  rfl

/-- A user whom no line names has no groups. -/
theorem groupsOf_ofText_of_not_named
    (hnone : ∀ line ∈ lines text.toList, ¬ NamesUser line user) :
    (ofText text).groupsOf user = ∅ := by
  have hfind : (rosterOf text).find? user = none := by
    refine (Roster.find?_ofText_eq_none_iff '=' text).mpr fun line hline group hgives => ?_
    exact hnone line hline (namesUser_iff.mpr ⟨group, hgives⟩)
  show ((rosterOf text).find? user).getD ∅ = ∅
  rw [hfind]
  rfl

-- ============================================================ the reload

/-- All answers of a mapping are those of a text. -/
structure Tells (g : Groups) (text : String) : Prop where
  /-- Asking for one group. -/
  hasGroup : ∀ user group, g.hasGroup user group = true ↔ Belongs text user group
  /-- Taking all groups. -/
  groupsOf : ∀ user group, group ∈ g.groupsOf user ↔ Belongs text user group
  /-- Asking a service that has this mapping over its administrative
  interface, whatever host and files it has. -/
  listed : ∀ (s : Service), s.groups = g → ∀ part user, Admin.Writes part user →
    ∀ key (request : Admin.Request), request.shows key = true → request.method = "GET" →
      request.path = "/admin/groups/" ++ String.ofList part →
        ∀ files h, ∃ names,
          (Admin.answer files key s request h).value = (.json 200 (.groups user names), h)
            ∧ ByteAscending names
            ∧ (∀ group, group ∈ names ↔ Belongs text user group)
            ∧ ((∀ line ∈ lines text.toList, ¬ NamesUser line user) → names = [])
  /-- A user that no valid line is about. -/
  unknown : ∀ user, (∀ line ∈ lines text.toList, ¬ NamesUser line user) →
    g.groupsOf user = ∅ ∧ ∀ group, g.hasGroup user group = false
  /-- The users that are counted: those that some valid line is about. -/
  users : ∃ users : List String, users.Nodup ∧ g.snapshot.size = users.length
    ∧ (∀ user, user ∈ users ↔ ∃ line ∈ lines text.toList, NamesUser line user)
    ∧ ∀ user ∈ users, ∃ group, group ∈ g.groupsOf user

/-- Groups that are built from a text tell what the text says. -/
theorem tells_ofText (text : String) : Tells (ofText text) text := by
  have hmem (user group : String) :
      group ∈ (ofText text).groupsOf user ↔ Belongs text user group := by
    rw [mem_groupsOf_iff_lists]
    exact lists_rosterOf
  have hhas (user group : String) :
      (ofText text).hasGroup user group = true ↔ Belongs text user group := by
    rw [hasGroup_iff_lists]
    exact lists_rosterOf
  refine ⟨hhas, hmem, ?_, ?_, ?_⟩
  case refine_1 =>
    intro s hs part user hpart key request hshows hmethod hpath files h
    refine ⟨(s.groups.groupsOf user).toList,
      Admin.answer_groups files s h hshows hmethod hpart hpath, byteAscending_toList _, ?_, ?_⟩
    · intro group
      rw [Std.TreeSet.mem_toList, hs, hmem]
    · intro hnone
      rw [hs, groupsOf_ofText_of_not_named hnone]
      rfl
  case refine_2 =>
    intro user hnone
    refine ⟨groupsOf_ofText_of_not_named hnone, fun group => ?_⟩
    rw [Bool.eq_false_iff, Ne, hhas]
    rintro ⟨line, hline, hgives⟩
    exact hnone line hline (namesUser_iff.mpr ⟨group, hgives⟩)
  case refine_3 =>
    have hnamed (user : String) : user ∈ (rosterOf text).names
        ↔ ∃ line ∈ lines text.toList, NamesUser line user := by
      rw [← exists_belongs_iff]
      refine (Roster.mem_names_ofText '=' text).trans ?_
      constructor
      · rintro ⟨line, hline, group, hgives⟩
        exact ⟨group, line, hline, hgives⟩
      · rintro ⟨group, line, hline, hgives⟩
        exact ⟨line, hline, group, hgives⟩
    refine ⟨(rosterOf text).names, Roster.nodup_names _, (Roster.length_names _).symm, hnamed, ?_⟩
    intro user huser
    obtain ⟨group, hbelongs⟩ := exists_belongs_iff.mpr ((hnamed user).mp huser)
    exact ⟨group, (hmem user group).mpr hbelongs⟩

/-- A reload that finds the group file succeeds, and from then on all ways
to a user's groups tell what the lines of the file say. The path of a
request names a user in whatever way an encoder of bytes writes it. -/
theorem tells_by_lines {config : GroupsConfig} {files : FileSystem}
    (hfound : files.Supplies config.file text) (g : Groups) :
    (∃ next, (g.reload config files).value = (.ok (), next) ∧ Tells next text)
      ∧ ∀ plain, KeepsParts plain → ∀ user, user ≠ "" →
          Admin.Writes (percentEncode plain (utf8 user)) user :=
  ⟨⟨ofText text, value_reload_of_supplies hfound g, tells_ofText text⟩,
    fun _ hplain _ hne => Admin.writes_percentEncode hplain hne⟩

/-- A user whose name has a slash and a letter beyond ASCII, with groups
on two lines, told to somebody who has the key. -/
theorem tells_by_lines_escaped_name :
    let text := "# staff\nann/é = ops, dev\nbob\nann/é=dev,,web\n"
    let files := (FileSystem.empty []).write "g" (utf8 text)
    let config : GroupsConfig := { file := some "g" }
    let request : Admin.Request :=
      { method := "GET", path := "/admin/groups/ann%2F%C3%A9"
        headers := [⟨"authorization", utf8 "Bearer key"⟩], body := [] }
    files.Supplies config.file text
      ∧ ∃ next, (new.reload config files).value = (.ok (), next)
        ∧ next.hasGroup "ann/é" "web" = true
        ∧ "ops" ∈ next.groupsOf "ann/é"
        ∧ next.groupsOf "bob" = ∅
        ∧ ∃ names, (Admin.answer files "key" { Service.new (.fixed {}) .md5 with groups := next }
              request Host.new).value.1 = .json 200 (.groups "ann/é" names)
            ∧ ByteAscending names ∧ "web" ∈ names ∧ "" ∉ names := by
  intro text files config request
  have hfound : files.Supplies config.file text := ⟨"g", rfl, by decide, by decide⟩
  obtain ⟨⟨next, hnext, htells⟩, hwrites⟩ := tells_by_lines hfound new
  -- This encoder writes everything but small letters by its digits.
  have hletters : KeepsParts fun b => decide (97 ≤ b.toNat ∧ b.toNat ≤ 122) := by
    intro b hb
    have hrange : 97 ≤ b.toNat ∧ b.toNat ≤ 122 := of_decide_eq_true hb
    have hpercent : '%'.toNat = 37 := rfl
    have hslash : '/'.toNat = 47 := rfl
    omega
  have hpart := hwrites _ hletters "ann/é" (by decide)
  have hshows : request.shows "key" = true := by decide
  obtain ⟨names, hanswer, hascending, hnames, -⟩ :=
    htells.listed { Service.new (.fixed {}) .md5 with groups := next } rfl _ _ hpart _ _ hshows rfl
      (by decide) files Host.new
  refine ⟨hfound, next, hnext, ?_, ?_, ?_, names, ?_, hascending, ?_, ?_⟩
  · exact (htells.hasGroup "ann/é" "web").mpr (by decide)
  · exact (htells.groupsOf "ann/é" "ops").mpr (by decide)
  · refine (htells.unknown "bob" ?_).1
    rintro line hline ⟨-, field, htokens, -⟩
    have hheads : ∀ line ∈ lines text.toList, (tokens '=' line).length = 2 →
        (tokens '=' line).head? ≠ some "bob".toList := by decide
    exact hheads line hline (by rw [htokens]; rfl) (by rw [htokens]; rfl)
  · rw [hanswer]
  · exact (hnames "web").mpr (by decide)
  · exact fun hempty => absurd ((hnames "").mp hempty) (by decide)

end Groups

end Warden
