/-
What the reading of a file looks at.

# Contents

A text is read from a file, and the path to a file ends in a name: a
closing slash asks for a directory, and so do two dots
(`exists_components_of_readText`, `Keeps.exists_name_of_readText`).

`Keeps` says that other files have the same on the way of some steps, and
above it. Then the steps lead to the same place there (`Keeps.finds`). In
the directory that the last name is looked up in, a file is read by what
is at its entry alone, if that is no link (`readText_congr`).
-/
import Warden.Proofs.Files.Trees

namespace Warden

open Warden.Path

namespace FileSystem

variable {files others : FileSystem} {path text name : String} {place : Place} {l : List Step}
  {s : Step}

-- ============================================================= what is read

/-- What is read at a place is what the file there holds. -/
theorem bytesAt_eq_ok_iff {bytes : List UInt8} :
    files.bytesAt place = .ok bytes
      ↔ ∃ number, files.node place = some (.file number) ∧ files.contents number = bytes := by
  rcases hnode : files.node place with _ | _ | _ | _ | _ <;> simp [bytesAt, hnode]

/-- A path that leads somewhere is not empty, and its steps are walked. -/
theorem walk_of_locate_eq_ok (h : files.locate path = .ok place) :
    path ≠ "" ∧ files.walk (steps path) = .ok place := by
  unfold locate at h
  split at h
  case isTrue => cases h
  case isFalse =>
    split at h
    case isTrue => cases h
    case isFalse hpath =>
      split at h
      case isTrue => cases h
      case isFalse => exact ⟨hpath, h⟩

/-- A path is located by what its steps lead to. -/
theorem locate_congr (h : others.walk (steps path) = files.walk (steps path)) :
    others.locate path = files.locate path := by
  unfold locate
  rw [h]

/-- What is read is the file that the steps of the path lead to. -/
theorem exists_walk_of_readText (hread : files.readText path = .ok text) :
    path ≠ "" ∧ ∃ place number, files.walk (steps path) = .ok place
      ∧ files.node place = some (.file number) := by
  unfold readText readBytes at hread
  cases hlocate : files.locate path with
  | error e =>
      rw [hlocate] at hread
      cases hread
  | ok place =>
      obtain ⟨hpath, hwalk⟩ := walk_of_locate_eq_ok hlocate
      cases hbytes : files.bytesAt place with
      | error e =>
          simp only [hlocate, bind, Except.bind, hbytes] at hread
          cases hread
      | ok bytes =>
          obtain ⟨number, hnode, -⟩ := bytesAt_eq_ok_iff.mp hbytes
          exact ⟨hpath, place, number, hwalk, hnode⟩

/-- The path of a file does not end in a step that stays. -/
theorem getLast?_steps_of_readText (hread : files.readText path = .ok text) :
    (steps path).getLast? ≠ some .here := by
  intro hlast
  obtain ⟨-, place, number, hwalk, hnode⟩ := exists_walk_of_readText hread
  rw [(leads_iff.mp hwalk).directory_of_here hlast] at hnode
  cases hnode

/-- Its last component neither stays nor leads to the root. -/
theorem exists_components_of_readText (hread : files.readText path = .ok text) :
    ∃ directory s, components path = directory ++ [s] ∧ s ≠ .root ∧ s ≠ .here := by
  obtain ⟨hpath, -⟩ := exists_walk_of_readText hread
  have hlast := getLast?_steps_of_readText hread
  rcases List.eq_nil_or_concat (steps path) with hnil | ⟨before, s, hsteps⟩
  · obtain ⟨s, hs, -⟩ := exists_mem_steps_ne_root hpath
    rw [hnil] at hs
    cases hs
  rw [List.concat_eq_append] at hsteps
  have hhere : s ≠ .here := by
    rintro rfl
    rw [hsteps, List.getLast?_concat] at hlast
    exact hlast rfl
  obtain ⟨directory, hcomponents⟩ := components_of_steps_concat hsteps hhere
  refine ⟨directory, s, hcomponents, ?_, hhere⟩
  rintro rfl
  cases before with
  | cons first rest => exact root_notMem_of_steps_eq_cons hsteps (by simp)
  | nil =>
      obtain ⟨s, hs, hroot⟩ := exists_mem_steps_ne_root hpath
      rw [hsteps] at hs
      exact hroot (List.mem_singleton.mp hs)

-- ============================================================ what is looked at

/-- In a directory that is found, the steps of a path end with its name,
unless that is a link. -/
theorem walk_steps (hfinds : files.Finds l place) (hname : components path = l ++ [.into name])
    (hlast : (steps path).getLast? ≠ some .here) (hplain : files.link? (place ++ [name]) = none) :
    files.walk (steps path) = files.step place (.into name) := by
  have hmove : files.link? (move place (.into name)) = none := hplain
  rw [← walk_components hlast, hname]
  exact hfinds.walk_concat (by simp) hmove

/-- There a file is read by what is at its entry. -/
theorem readText_congr (hfinds : files.Finds l place) (hothers : others.Finds l place)
    (hplace : others.node place = files.node place)
    (hname : components path = l ++ [.into name]) (hlast : (steps path).getLast? ≠ some .here)
    (hplain : files.link? (place ++ [name]) = none)
    (hplain' : others.link? (place ++ [name]) = none)
    (hbytes : others.bytesAt (place ++ [name]) = files.bytesAt (place ++ [name])) :
    others.readText path = files.readText path := by
  have hwalk := walk_steps hfinds hname hlast hplain
  have hwalk' := walk_steps hothers hname hlast hplain'
  rw [step_congr hplace] at hwalk'
  have hlocate : others.locate path = files.locate path := locate_congr (hwalk'.trans hwalk.symm)
  unfold readText readBytes
  rw [hlocate]
  cases hfound : files.locate path with
  | error e => rfl
  | ok entry =>
      have hstep := (walk_of_locate_eq_ok hfound).2
      rw [hwalk] at hstep
      obtain rfl : entry = place ++ [name] := (step_eq_ok_iff.mp hstep).1
      simp only [bind, Except.bind, hbytes]

/-- What is read there is a file. -/
theorem exists_node_of_readText (hfinds : files.Finds l place)
    (hname : components path = l ++ [.into name]) (hplain : files.link? (place ++ [name]) = none)
    (hread : files.readText path = .ok text) :
    ∃ number, files.node (place ++ [name]) = some (.file number) := by
  obtain ⟨-, goal, number, hwalk, hnode⟩ := exists_walk_of_readText hread
  rw [walk_steps hfinds hname (getLast?_steps_of_readText hread) hplain] at hwalk
  obtain rfl : goal = place ++ [name] := (step_eq_ok_iff.mp hwalk).1
  exact ⟨number, hnode⟩

-- ==================================================== a way that is kept

/-- Other files have the same on the way of some steps: at all places that
these pass, and above. -/
structure Keeps (files others : FileSystem) (l : List Step) : Prop where
  working : others.working = files.working
  way : ∀ q ∈ files.passed l, ∀ a, a <+: q → (files.node a).isSome = true →
    others.node a = files.node a

theorem Keeps.refl (files : FileSystem) (l : List Step) : files.Keeps files l where
  working := rfl
  way _ _ _ _ _ := rfl

/-- The place that was found is as it was. -/
theorem Keeps.node_eq (hkeeps : files.Keeps others l) (hfinds : files.Finds l place) :
    others.node place = files.node place :=
  hkeeps.way place hfinds.mem_passed place (List.prefix_refl _) hfinds.there

section

variable (hkeeps : files.Keeps others l) (htree : files.IsTree) (hroot : .root ∉ l.tail)
  (hfinds : files.Finds l place)

include hkeeps htree hroot hfinds

/-- The steps lead there by the same way. -/
theorem Keeps.finds : others.Finds l place ∧ others.passed l = files.passed l := by
  have horigin : others.origin l = files.origin l := by
    unfold origin
    rw [hkeeps.working]
  obtain ⟨hleads, hpassed⟩ := hfinds.leads.congr fun q hq =>
    hkeeps.way q hq q (List.prefix_refl _) (htree.isSome_of_mem_passed hroot hfinds q hq)
  refine ⟨⟨horigin ▸ hleads, ?_⟩, ?_⟩
  · rw [hkeeps.node_eq hfinds]
    exact hfinds.there
  · unfold passed
    rw [horigin]
    exact hpassed

/-- A text that is read along a way that is kept has a path that ends in a
name: two dots lead to a directory above what was found, and that is there
as it was. -/
theorem Keeps.exists_name_of_readText (hcomponents : components path = l ++ [s])
    (hs : s ≠ .root) (hstays : s ≠ .here) (hread : others.readText path = .ok text) :
    ∃ name, s = .into name := by
  cases s with
  | root => exact absurd rfl hs
  | here => exact absurd rfl hstays
  | into name => exact ⟨name, rfl⟩
  | up =>
      exfalso
      obtain ⟨-, goal, number, hwalk, hnode⟩ := exists_walk_of_readText hread
      have habove : files.node place.dropLast = some .directory := htree.dropLast hfinds.there
      have hkept : others.node place.dropLast = some .directory := by
        rw [hkeeps.way place hfinds.mem_passed _ (List.dropLast_prefix place)
          (by rw [habove]; rfl), habove]
      rw [← walk_components (getLast?_steps_of_readText hread), hcomponents,
        (hkeeps.finds htree hroot hfinds).1.walk_concat hs (link?_of_directory hkept)] at hwalk
      obtain rfl : goal = place.dropLast := (step_eq_ok_iff.mp hwalk).1
      rw [hkept] at hnode
      cases hnode

end

end FileSystem

end Warden
