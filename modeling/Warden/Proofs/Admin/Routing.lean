/-
From an authenticated request to what is done for it.

# Contents

A path is read part by part, and a part that may vary is anything without
a slash (`ofPath?_part`). Which text it stands for is a matter of percent
encoding: `Writes` is that a part writes a text, and every encoder that
keeps to one part of a path writes its text so (`writes_percentEncode`).

A request that shows the key gets what its target serves
(`answer_of_shows`). For the groups of a user that is one list, and the
host stays as it is (`answer_groups`).
-/
import Warden.Admin.Router
import Warden.Proofs.Text.Percent
import Warden.Proofs.Text.Pieces

namespace Warden.Admin

open Text

-- ================================================================== paths

/-- A part of a path writes a text. -/
structure Writes (part : List Char) (text : String) : Prop where
  ne_nil : part ≠ []
  slash : '/' ∉ part
  reads : percentText? part = some text

/-- Percent encoding writes a text in one part of a path. -/
theorem writes_percentEncode {plain : UInt8 → Bool} (hplain : KeepsParts plain) {text : String}
    (hne : text ≠ "") : Writes (percentEncode plain (utf8 text)) text where
  ne_nil := by
    -- Nothing is written only for nothing, and that would be read as no text.
    intro hnil
    have hread := percentText?_percentEncode hplain text
    rw [hnil] at hread
    injection hread with htext
    exact hne htext.symm
  slash := slash_notMem_percentEncode hplain (utf8 text)
  reads := percentText?_percentEncode hplain text

/-- The target of a path whose last part may vary. -/
theorem ofPath?_part (kind : String) (hkind : '/' ∉ kind.toList) {target : List Char → Target}
    (htarget : ∀ part, part ≠ [] →
      Target.ofParts? [[], Target.admin, kind.toList, part] = some (target part))
    {part : List Char} {text : String} (hpart : Writes part text) :
    Target.ofPath? ("/admin/" ++ kind ++ "/" ++ String.ofList part) = some (target part) := by
  have hpath : ("/admin/" ++ kind ++ "/" ++ String.ofList part).toList
      = List.intercalate ['/'] [[], Target.admin, kind.toList, part] := by
    simp [Target.admin, List.intercalate]
  rw [Target.ofPath?, hpath, pieces_intercalate '/' (List.cons_ne_nil _ _)]
  · exact htarget part hpart.ne_nil
  · intro p hp
    simp only [List.mem_cons, List.not_mem_nil, or_false] at hp
    rcases hp with rfl | rfl | rfl | rfl
    · exact List.not_mem_nil
    · decide
    · exact hkind
    · exact hpart.slash

/-- The path of a user is the target of this user's groups. -/
theorem ofPath?_groups {part : List Char} {user : String} (hpart : Writes part user) :
    Target.ofPath? ("/admin/groups/" ++ String.ofList part) = some (.groups part) := by
  apply ofPath?_part "groups" (by decide) _ hpart
  intro part hne
  simp [Target.ofParts?, hne]

/-- The path of an identifier is the target of its refresh command. -/
theorem ofPath?_refresh {part : List Char} {identifier : String} (hpart : Writes part identifier) :
    Target.ofPath? ("/admin/refresh/" ++ String.ofList part) = some (.refresh part) := by
  apply ofPath?_part "refresh" (by decide) _ hpart
  intro part hne
  simp [Target.ofParts?, hne]

-- ================================================================ answers

variable (files : FileSystem) {key : String} (s : Service) {request : Request} (h : Host)

/-- Who shows the key gets what the target serves, and nothing else is done
or noted. -/
theorem answer_of_shows (hshows : request.shows key = true) {target : Target}
    (htarget : Target.ofPath? request.path = some target) (hmethod : request.method ≠ "HEAD")
    (hhas : target.has request.method = true) :
    answer files key s request h
      = (fun served => ({ served.1 with allow := none }, served.2))
          <$> serve files s target request h := by
  unfold answer route
  simp [hshows, htarget, hhas, hmethod, allowed]

/-- With the key, a question about a user is answered with the user's groups. -/
theorem answer_groups (hshows : request.shows key = true) (hmethod : request.method = "GET")
    {part : List Char} {user : String} (hpart : Writes part user)
    (hpath : request.path = "/admin/groups/" ++ String.ofList part) :
    (answer files key s request h).value
      = (.json 200 (.groups user (s.groups.groupsOf user).toList), h) := by
  have htarget : Target.ofPath? request.path = some (.groups part) := by
    rw [hpath, ofPath?_groups hpart]
  rw [answer_of_shows files s h hshows htarget (by rw [hmethod]; decide) (by rw [hmethod]; rfl)]
  simp [serve, groupsReply, hpart.reads, Reply.json]

end Warden.Admin
