/-
What a change leaves as it is.

# Contents

A change puts something new in a few places (`Change.replaced`), takes
what is below them along, and fills places where nothing is. So what is
at a place stays if neither the place nor one above it is replaced
(`node_apply`); and if the place itself is not touched either, the worst
that can happen to it is a removal (`node_apply_of_not_touched`). What a
file holds is changed by a write to one of its names alone
(`contents_apply`).

A change `Spares` a path if it leaves what its last name is looked up
through in place, and does not write the file under another name. Then
the way to the file is kept (`Keeps.apply`), and without an event of it
the file is read as before, or not at all (`Keeps.readText_of_apply`).
-/
import Warden.Proofs.Files.Reading
import Warden.Watch

namespace Warden

open Text Warden.Path

variable {files others : FileSystem} {path name : String} {place : Place} {places : List Place}

-- =============================================================== one place

namespace FileSystem

variable {node : Node} {hnode : ∀ number, node = .file number → number < files.fresh}
  {number : Nat} {bytes : List UInt8}

/-- Filling changes nothing where something is. -/
theorem node_fill (h : place ∈ places → (files.node place).isSome = true) :
    (files.fill places node hnode).node place = files.node place := by
  show (files.node place).or (if place ∈ places then some node else none) = files.node place
  cases hold : files.node place with
  | some _ => rfl
  | none =>
      rw [if_neg]
      · rfl
      · intro hmem
        have hthere := h hmem
        rw [hold] at hthere
        cases hthere

theorem node_makeDirectories (h : place ∈ places → (files.node place).isSome = true) :
    (files.makeDirectories places).node place = files.node place := by
  unfold makeDirectories
  exact node_fill h

/-- Nor does making something new in directories that are made for it. -/
theorem node_fill_makeDirectories {entry : Place}
    {hnode : ∀ number, node = .file number → number < (files.makeDirectories places).fresh}
    (h : place ∈ places ++ [entry] → (files.node place).isSome = true) :
    ((files.makeDirectories places).fill [entry] node hnode).node place = files.node place := by
  have hdirectories : (files.makeDirectories places).node place = files.node place :=
    node_makeDirectories fun hmem => h (List.mem_append_left _ hmem)
  rw [node_fill, hdirectories]
  intro hmem
  rw [hdirectories]
  exact h (List.mem_append_right _ hmem)

/-- A link is put where nothing is, and nowhere else. -/
theorem node_makeLink {dest : String}
    (h : place ∈ files.lookups path ++ [files.entry path] → (files.node place).isSome = true) :
    (files.makeLink path dest).node place = files.node place := by
  unfold makeLink
  exact node_fill_makeDirectories h

/-- A new file changes its own place alone. -/
theorem node_create_of_ne {p : Place} (h : place ≠ p) :
    (files.create p bytes).node place = files.node place :=
  if_neg h

/-- Storing changes what is at its place alone. -/
theorem node_store_of_ne {p : Place} (h : place ≠ p) :
    (files.store p bytes).node place = files.node place := by
  unfold store
  split
  · rfl
  · exact node_create_of_ne h

/-- It has a new number, so that no file holds anything else. -/
theorem contents_create (h : number < files.fresh) (p : Place) (bytes : List UInt8) :
    (files.create p bytes).contents number = files.contents number :=
  if_neg (Nat.ne_of_lt h)

/-- Storing changes what the file at its place holds, if there is one. -/
theorem contents_store {p : Place} (h : number < files.fresh)
    (hother : files.node p ≠ some (.file number)) :
    (files.store p bytes).contents number = files.contents number := by
  unfold store
  split
  case h_1 n hn => exact if_neg fun (heq : number = n) => hother (heq ▸ hn)
  case h_2 => exact contents_create h p bytes

/-- What is read at a place is decided by what is there, and what the file
holds if it is one. -/
theorem bytesAt_congr (hsame : others.node place = files.node place)
    (hcontents : ∀ number, files.node place = some (.file number) →
      others.contents number = files.contents number) :
    others.bytesAt place = files.bytesAt place := by
  unfold bytesAt
  rw [hsame]
  cases hnode : files.node place with
  | none => rfl
  | some found =>
      cases found with
      | file number => exact congrArg Except.ok (hcontents number hnode)
      | directory | link dest | barred cause => rfl

/-- Names of one number are names of one file. -/
theorem sameFile_of_nodes {p q : Place} (hp : files.node p = some (.file number))
    (hq : files.node q = some (.file number)) : files.sameFile p q = true := by
  simp [sameFile, hp, hq]

end FileSystem

-- ================================================================ replaced

namespace Change

/-- The places where a change puts something else, or nothing. -/
def replaced (files : FileSystem) : Change → List Place
  | write path _ => [files.target path]
  | replace path _ | remove path => [files.entry path]
  | rename path dest =>
    if files.isIdle path dest then [] else [files.entry path, files.entry dest]
  | makeDirectory _ | makeLink _ _ | addName _ _ | read _ => []

/-- The place of the file that a change writes into. -/
def written (files : FileSystem) : Change → List Place
  | write path _ => [files.target path]
  | _ => []

/-- No change moves the working directory. -/
@[simp] theorem working_apply (files : FileSystem) (c : Change) :
    (c.apply files).working = files.working := by
  cases c with
  | write path bytes =>
      show ((files.makeDirectories _).store _ _).working = _
      unfold FileSystem.store
      split <;> rfl
  | addName path dest =>
      show (files.addName path dest).working = _
      unfold FileSystem.addName
      split <;> rfl
  | _ => rfl

/-- Where nothing is replaced, at the place or above it, a renaming moves
nothing. -/
theorem node_rename {dest : String}
    (hspared : ∀ p ∈ (rename path dest).replaced files, ¬ p <+: place) :
    ((rename path dest).apply files).node place = files.node place := by
  show (files.rename path dest).node place = _
  simp only [FileSystem.rename]
  split
  case isTrue => rfl
  case isFalse hidle =>
    simp only [replaced, if_neg hidle, List.mem_cons, List.not_mem_nil, or_false,
      forall_eq_or_imp, forall_eq] at hspared
    rw [if_neg hspared.2, if_neg hspared.1]

/-- Another name is given where nothing is. -/
theorem node_addName {dest : String}
    (h : place ∈ (addName path dest).touched files → (files.node place).isSome = true) :
    ((addName path dest).apply files).node place = files.node place := by
  show (files.addName path dest).node place = _
  unfold FileSystem.addName
  split
  case h_2 => rfl
  case h_1 number hnumber =>
    refine FileSystem.node_fill_makeDirectories fun hmem => ?_
    refine Classical.byContradiction fun hnone => hnone (h ?_)
    simp only [touched, hnumber, missing, List.mem_filter, mem_firsts]
    exact ⟨hmem, by simpa using hnone⟩

/-- What is at a place stays, if nothing is put there or above it. -/
theorem node_apply (c : Change) (hspared : ∀ p ∈ c.replaced files, ¬ p <+: place)
    (hplace : (files.node place).isSome = true) :
    (c.apply files).node place = files.node place := by
  have hne {p : Place} (hp : p ∈ c.replaced files) : place ≠ p := by
    rintro rfl
    exact hspared _ hp (List.prefix_refl _)
  cases c with
  | write path bytes =>
      show ((files.makeDirectories _).store _ _).node place = _
      rw [FileSystem.node_store_of_ne (hne (List.mem_singleton_self _))]
      exact FileSystem.node_makeDirectories fun _ => hplace
  | replace path bytes =>
      show ((files.makeDirectories _).create _ _).node place = _
      rw [FileSystem.node_create_of_ne (hne (List.mem_singleton_self _))]
      exact FileSystem.node_makeDirectories fun _ => hplace
  | rename path dest => exact node_rename hspared
  | remove path => exact if_neg (hspared _ (List.mem_singleton_self _))
  | makeDirectory path => exact FileSystem.node_makeDirectories fun _ => hplace
  | makeLink path dest => exact FileSystem.node_makeLink fun _ => hplace
  | addName path dest => exact node_addName fun _ => hplace
  | read path => rfl

/-- Missing are those of the places where nothing is. -/
theorem mem_missing : place ∈ missing files places ↔ place ∈ places ∧ files.node place = none := by
  simp [missing, mem_firsts]

/-- Where nothing is missing, something is. -/
theorem isSome_of_notMem_missing (h : place ∉ missing files places) (hplace : place ∈ places) :
    (files.node place).isSome = true := by
  rw [mem_missing] at h
  exact Option.isSome_iff_ne_none.mpr fun hnone => h ⟨hplace, hnone⟩

/-- What is at a place that a change does not touch stays or is removed, if
nothing is put above it. -/
theorem node_apply_of_not_touched (c : Change)
    (hspared : ∀ p ∈ c.replaced files, p <+: place → p = place)
    (hplace : place ∉ c.touched files) :
    (c.apply files).node place = files.node place ∨ (c.apply files).node place = none := by
  cases c with
  | write path bytes =>
      obtain ⟨hmissing, hne⟩ := not_or.mp (mt List.mem_append.mpr hplace)
      left
      show ((files.makeDirectories _).store _ _).node place = _
      rw [FileSystem.node_store_of_ne (by simpa using hne)]
      exact FileSystem.node_makeDirectories (isSome_of_notMem_missing hmissing)
  | replace path bytes =>
      obtain ⟨hmissing, hne⟩ := not_or.mp (mt List.mem_append.mpr hplace)
      left
      show ((files.makeDirectories _).create _ _).node place = _
      rw [FileSystem.node_create_of_ne (by simpa using hne)]
      exact FileSystem.node_makeDirectories (isSome_of_notMem_missing hmissing)
  | rename path dest =>
      left
      refine node_rename fun p hp hunder => hplace ?_
      rw [← hspared p hp hunder]
      exact hp
  | remove path =>
      show (if _ then none else files.node place) = _ ∨ (if _ then none else files.node place) = none
      split
      · exact .inr rfl
      · exact .inl rfl
  | makeDirectory path =>
      exact .inl (FileSystem.node_makeDirectories (isSome_of_notMem_missing hplace))
  | makeLink path dest => exact .inl (FileSystem.node_makeLink (isSome_of_notMem_missing hplace))
  | addName path dest => exact .inl (node_addName fun hmem => absurd hmem hplace)
  | read path => exact .inl rfl

/-- A file that is not written, under this name or another, holds what it
held. -/
theorem contents_apply (c : Change) {number : Nat} (hnode : files.node place = some (.file number))
    (hwritten : ∀ p ∈ c.written files, files.sameFile p place ≠ true) :
    (c.apply files).contents number = files.contents number := by
  have hnumber : number < files.fresh := files.numbered hnode
  cases c with
  | write path bytes =>
      refine FileSystem.contents_store hnumber fun htarget => ?_
      -- No directory that is made on the way is the file.
      rcases Option.or_eq_some_iff.mp htarget with hold | ⟨-, hnew⟩
      · exact hwritten _ (List.mem_singleton_self _) (FileSystem.sameFile_of_nodes hold hnode)
      · split at hnew <;> cases hnew
  | replace path bytes => exact FileSystem.contents_create hnumber (files.entry path) bytes
  | addName path dest =>
      show (files.addName path dest).contents number = _
      unfold FileSystem.addName
      split <;> rfl
  | _ => rfl

end Change

-- ==================================================== a way that is kept

/-- A change puts nothing in the place of what the last name of a path is
looked up through, or above it, and does not write into the file of this
name under another one. -/
structure Change.Spares (c : Change) (files : FileSystem) (path : String) : Prop where
  way : ∀ p ∈ c.replaced files, ∀ q ∈ files.lookups path, ¬ p <+: q
  name : ∀ p ∈ c.written files, files.sameFile p (files.entry path) = true → p = files.entry path

instance (c : Change) (files : FileSystem) (path : String) : Decidable (c.Spares files path) :=
  decidable_of_iff
    ((∀ p ∈ c.replaced files, ∀ q ∈ files.lookups path, ¬ p <+: q)
      ∧ ∀ p ∈ c.written files, files.sameFile p (files.entry path) = true → p = files.entry path)
    ⟨fun h => ⟨h.1, h.2⟩, fun h => ⟨h.way, h.name⟩⟩

namespace FileSystem

variable {c : Change} (hkeeps : files.Keeps others (front path)) (htree : files.IsTree)
  (hfinds : files.Finds (front path) place) (hspares : c.Spares others path)

include hkeeps htree hfinds

/-- The name of a path is looked up through the same directories and links,
in the same directory at last. -/
theorem Keeps.lookups_eq : others.lookups path = files.lookups path :=
  (hkeeps.finds htree (root_notMem_tail_front path) hfinds).2

/-- The directory of a path is found where it was. -/
theorem Keeps.finds_front : others.Finds (front path) place :=
  (hkeeps.finds htree (root_notMem_tail_front path) hfinds).1

include hspares

/-- A change that spares a path keeps the way to it. -/
theorem Keeps.apply : files.Keeps (c.apply others) (front path) where
  working := (c.working_apply others).trans hkeeps.working
  way := by
    intro q hq a ha hsome
    have hnode : others.node a = files.node a := hkeeps.way q hq a ha hsome
    rw [← hnode]
    refine c.node_apply (fun p hp hunder => ?_) (hnode ▸ hsome)
    refine hspares.way p hp q ?_ (hunder.trans ha)
    rw [hkeeps.lookups_eq htree hfinds]
    exact hq

/-- Along a way that is kept, a file that is not touched has the text that
it had, if it has one and is no link. -/
theorem Keeps.readText_of_apply {text : String} (hname : name? path = some name)
    (htouched : place ++ [name] ∉ c.touched others)
    (hplain : (c.apply others).link? (place ++ [name]) = none)
    (hread : (c.apply others).readText path = .ok text) :
    others.link? (place ++ [name]) = none ∧ others.readText path = .ok text := by
  obtain ⟨directory, hparent, hcomponents⟩ := components_of_name? hname
  obtain rfl : front path = directory := (parent?_of_components hcomponents (by simp)).2
  have hafter : files.Keeps (c.apply others) (front path) := hkeeps.apply htree hfinds hspares
  have hbefore : others.Finds (front path) place := hkeeps.finds_front htree hfinds
  have hfound : (c.apply others).Finds (front path) place := hafter.finds_front htree hfinds
  have hentry : others.entry path = place ++ [name] := hbefore.entry_eq hcomponents
  have hspared : ∀ p ∈ c.replaced others, p <+: place ++ [name] → p = place ++ [name] := by
    refine fun p hp hunder => (List.prefix_concat_iff.mp hunder).resolve_right fun habove => ?_
    exact hspares.way p hp place hbefore.mem_passed habove
  have hnode : (c.apply others).node (place ++ [name]) = others.node (place ++ [name]) := by
    refine (c.node_apply_of_not_touched hspared htouched).resolve_right fun hnone => ?_
    obtain ⟨number, hnumber⟩ := exists_node_of_readText hfound hcomponents hplain hread
    rw [hnone] at hnumber
    cases hnumber
  have hplain' : others.link? (place ++ [name]) = none := by
    rw [← hplain]
    exact (link?_congr hnode).symm
  have hbytes : (c.apply others).bytesAt (place ++ [name]) = others.bytesAt (place ++ [name]) := by
    refine bytesAt_congr hnode fun number hnumber => ?_
    refine c.contents_apply hnumber fun p hp hsame => htouched ?_
    -- What is written into is touched.
    have hp' : p = place ++ [name] := hentry ▸ hspares.name p hp (hentry ▸ hsame)
    cases c with
    | write path bytes =>
        rw [List.mem_singleton.mp hp] at hp'
        exact hp' ▸ List.mem_append_right _ (List.mem_singleton_self _)
    | _ => cases hp
  refine ⟨hplain', ?_⟩
  rw [← hread]
  refine (readText_congr hbefore hfound ?_ hcomponents (getLast?_steps_of_readText hread) hplain'
    hplain hbytes).symm
  rw [hafter.node_eq hfinds, hkeeps.node_eq hfinds]

end FileSystem

end Warden
