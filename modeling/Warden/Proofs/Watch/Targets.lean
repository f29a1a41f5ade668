/-
Which commands a change to a file is for.

# Contents

Events name a file by the path of its place, while settings write paths
in whatever way they like. `Denotes` is that a path means an entry of a
directory that is there: the steps before its last name lead to the
directory, through symbolic links too, and the name is that of the entry.
The watch target of such a path is the path of the entry
(`absolute_of_denotes`). Of the paths that are watched as they are
written, because their directory is missing or because they end in no
name, none is the path of an entry: what stands before the name would
lead to a directory that is there. So a changed entry concerns exactly
the settings that denote it (`same_absolute_iff`).

What several changed paths concern is what each of them does
(`mem_affected`), told in one order whatever the order of the changes
(`affected_congr`).
-/
import Warden.Proofs.Files.Trees
import Warden.Proofs.Service.Accounting
import Warden.Proofs.Text.ByteOrder
import Warden.Watch

namespace Warden

open Text Warden.Path

variable {files : FileSystem} {config : Config} {targets : List WatchTarget}

-- ======================================================= what a path denotes

/-- A path ends in a name, the steps before the name lead to a place where
something is, and the entry is the one of this name there. -/
def FileSystem.Denotes (files : FileSystem) (path : String) (entry : Place) : Prop :=
  ∃ directory place name, components path = directory ++ [.into name]
    ∧ files.Finds directory place ∧ entry = place ++ [name]

namespace FileSystem

variable {path name : String} {directory : List Step} {place entry : Place}

/-- A path is watched by its name in the canonical directory. -/
theorem absolute_of_canonical (hname : components path = directory ++ [.into name])
    (hdirectory : files.canonical directory = .ok place) :
    files.absolute path = (place ++ [name] : Place).path := by
  obtain ⟨hlast, hparent⟩ := name?_of_components hname
  simp [absolute, hlast, hparent, hdirectory]

/-- What stands before the last name of a path leads to the root at its
start alone. -/
theorem root_notMem_tail (hname : components path = directory ++ [.into name]) :
    .root ∉ directory.tail := by
  have hfront := (parent?_of_components hname (by simp)).2
  exact hfront ▸ root_notMem_tail_front path

/-- A path that denotes an entry is watched as the path of the entry. -/
theorem absolute_of_denotes (htree : files.IsTree) (h : files.Denotes path entry) :
    files.absolute path = entry.path := by
  obtain ⟨directory, place, name, hname, hfinds, rfl⟩ := h
  exact absolute_of_canonical hname (htree.canonical_of_finds (root_notMem_tail hname) hfinds)

/-- The path of an entry of a place. -/
theorem components_entry (htree : files.IsTree) (hplace : (files.node place).isSome = true)
    (hname : IsName name) :
    components (place ++ [name] : Place).path = (.root :: place.map .into) ++ [.into name] := by
  rw [components_path, List.map_append, List.map_singleton, List.cons_append]
  intro n hn
  rcases List.mem_append.mp hn with hn | hn
  · exact htree.names hplace hn
  · rwa [List.mem_singleton.mp hn]

/-- Watched as the path of its entry, a file is looked up from the root. -/
theorem components_absolute (htree : files.IsTree)
    (hname : components path = directory ++ [.into name])
    (hdirectory : files.canonical directory = .ok place) :
    components (files.absolute path) = (.root :: place.map .into) ++ [.into name] := by
  rw [absolute_of_canonical hname hdirectory]
  exact components_entry htree (finds_of_canonical_eq_ok hdirectory).there
    (isName_of_mem_components (by rw [hname]; simp))

/-- A path is watched as it is written if the directory before its last
component is not there. -/
theorem absolute_of_canonical_eq_error {e : ReadError} (hparent : parent? path = some directory)
    (hdirectory : files.canonical directory = .error e) : files.absolute path = path := by
  cases hlast : name? path <;> simp [absolute, hparent, hlast, hdirectory]

/-- A path is watched as the path of an entry only if it denotes it. -/
theorem denotes_of_same_absolute (htree : files.IsTree)
    (hplace : (files.node place).isSome = true) (hplain : files.link? place = none)
    (hname : IsName name)
    (hsame : same (files.absolute path) (place ++ [name] : Place).path = true) :
    files.Denotes path (place ++ [name]) := by
  rw [same_iff, components_entry htree hplace hname] at hsame
  cases hlast : name? path with
  | none =>
      -- Left as it is written, the path would have the name of the entry.
      have hwritten : files.absolute path = path := by
        cases hparent : parent? path <;> simp [absolute, hlast, hparent]
      rw [hwritten] at hsame
      rw [(name?_of_components hsame).1] at hlast
      cases hlast
  | some last =>
      obtain ⟨directory, hparent, hcomponents⟩ := components_of_name? hlast
      cases hdirectory : files.canonical directory with
      | error e =>
          -- Left as it is written, it would stand in the same directory.
          rw [absolute_of_canonical_eq_error hparent hdirectory, hcomponents] at hsame
          obtain ⟨rfl, -⟩ := List.append_inj' hsame rfl
          rw [htree.canonical_path hplace hplain] at hdirectory
          cases hdirectory
      | ok found =>
          rw [components_absolute htree hcomponents hdirectory] at hsame
          obtain ⟨hplaces, hlasts⟩ := List.append_inj' hsame rfl
          have hinto : Function.Injective Step.into := fun _ _ h => Step.into.inj h
          have hplace' : found = place := hinto.list_map (List.cons.inj hplaces).2
          have hname' : last = name := hinto (List.cons.inj hlasts).1
          subst hplace' hname'
          exact ⟨directory, found, last, hcomponents, finds_of_canonical_eq_ok hdirectory, rfl⟩

/-- The target of a path is the path of an entry if the path denotes it. -/
theorem same_absolute_iff (htree : files.IsTree) (hplace : (files.node place).isSome = true)
    (hplain : files.link? place = none) (hname : IsName name) :
    same (files.absolute path) (place ++ [name] : Place).path = true
      ↔ files.Denotes path (place ++ [name]) := by
  refine ⟨denotes_of_same_absolute htree hplace hplain hname, fun h => ?_⟩
  rw [absolute_of_denotes htree h, same_iff]

end FileSystem

-- ================================================================== targets

namespace Dataset

/-- All datasets, in the order in which their files are listed. -/
def all : List Dataset := [.groups, .fixedWhitelist, .variableWhitelist, .passwords]

theorem mem_all (d : Dataset) : d ∈ all := by
  cases d <;> decide

end Dataset

theorem watchTargets_eq (files : FileSystem) (config : Config) :
    watchTargets files config
      = Dataset.all.filterMap fun d => watchTarget? files (d.file? config) d.policy := rfl

theorem watchTarget?_eq_some_iff {file : Option String} {policy : Policy} {t : WatchTarget} :
    watchTarget? files file policy = some t
      ↔ ∃ path, file = some path ∧ path ≠ "" ∧ t = ⟨files.absolute path, policy.identifier⟩ := by
  cases file with
  | none => simp [watchTarget?]
  | some path =>
      by_cases hpath : path = ""
      · simp [watchTarget?, hpath]
      · simp [watchTarget?, hpath, eq_comm]

/-- The targets are those of the datasets with a path. -/
theorem mem_watchTargets {t : WatchTarget} :
    t ∈ watchTargets files config
      ↔ ∃ (d : Dataset) (path : String), d.file? config = some path ∧ path ≠ ""
          ∧ t = ⟨files.absolute path, d.policy.identifier⟩ := by
  simp only [watchTargets_eq, List.mem_filterMap, watchTarget?_eq_some_iff]
  constructor
  · rintro ⟨d, -, path, h⟩
    exact ⟨d, path, h⟩
  · rintro ⟨d, path, h⟩
    exact ⟨d, d.mem_all, path, h⟩

-- ================================================================= affected

/-- Concerned are the commands of all targets among the paths. -/
theorem mem_affected {paths : List String} {identifier : String} :
    identifier ∈ affected targets paths
      ↔ ∃ path ∈ paths, ∃ t ∈ targets, same t.path path = true ∧ t.identifier = identifier := by
  simp only [affected, Std.TreeSet.mem_toList, Std.TreeSet.mem_insertMany_list,
    Std.TreeSet.not_mem_emptyc, false_or, List.contains_iff_mem, List.mem_flatMap, List.mem_map,
    List.mem_filter]
  constructor
  · rintro ⟨path, hpath, t, ⟨ht, hsame⟩, rfl⟩
    exact ⟨path, hpath, t, ht, hsame, rfl⟩
  · rintro ⟨path, hpath, t, ht, hsame, rfl⟩
    exact ⟨path, hpath, t, ⟨ht, hsame⟩, rfl⟩

/-- Neither the order of the changed paths counts nor how often they come. -/
theorem affected_congr {paths others : List String} (h : ∀ path, path ∈ paths ↔ path ∈ others) :
    affected targets paths = affected targets others := by
  refine Std.TreeSet.Equiv.toList_eq (Std.TreeSet.Equiv.of_forall_mem_iff fun identifier => ?_)
  have hmem : identifier ∈ affected targets paths ↔ identifier ∈ affected targets others := by
    simp only [mem_affected, h]
  simpa only [affected, Std.TreeSet.mem_toList] using hmem

-- ========================================================== all spellings

/-- Not watched is a setting without a path, or with an empty one. -/
theorem watchTarget?_eq_none_iff {file : Option String} {policy : Policy} :
    watchTarget? files file policy = none ↔ file = none ∨ file = some "" := by
  cases file with
  | none => simp [watchTarget?]
  | some path => by_cases hpath : path = "" <;> simp [watchTarget?, hpath]

/-- A path in a directory that is there is watched as the path of its
entry. -/
theorem watchTarget?_of_canonical {policy : Policy} {path name : String} {directory : List Step}
    {place : Place} (hparent : parent? path = some directory) (hname : name? path = some name)
    (hdirectory : files.canonical directory = .ok place) :
    watchTarget? files (some path) policy
        = some ⟨(place ++ [name] : Place).path, policy.identifier⟩
      ∧ files.Finds directory place ∧ files.entry path = place ++ [name] := by
  obtain ⟨before, hbefore, hcomponents⟩ := components_of_name? hname
  obtain rfl : directory = before := Option.some.inj (hparent.symm.trans hbefore)
  have hpath : path ≠ "" := by
    rintro rfl
    cases hname
  have hfinds : files.Finds directory place := FileSystem.finds_of_canonical_eq_ok hdirectory
  refine ⟨watchTarget?_eq_some_iff.mpr ⟨path, rfl, hpath, ?_⟩, hfinds,
    hfinds.entry_eq hcomponents⟩
  rw [FileSystem.absolute_of_canonical hcomponents hdirectory]

/-- What a changed entry of a canonical directory concerns are the settings
that denote it. -/
theorem mem_affected_entry_iff (htree : files.IsTree) {directory : List Step} {place : Place}
    {name : String} (hdirectory : files.canonical directory = .ok place) (hname : IsName name)
    {identifier : String} :
    identifier ∈ affected (watchTargets files config) [(place ++ [name] : Place).path]
      ↔ ∃ (d : Dataset) (path : String), d.file? config = some path
          ∧ files.Denotes path (place ++ [name]) ∧ identifier = d.policy.identifier := by
  have hfinds : files.Finds directory place := FileSystem.finds_of_canonical_eq_ok hdirectory
  have hplain : files.link? place = none := htree.link?_of_finds hfinds
  rw [mem_affected]
  constructor
  · rintro ⟨_, hmem, t, ht, hsame, rfl⟩
    obtain ⟨d, path, hfile, -, rfl⟩ := mem_watchTargets.mp ht
    rw [List.mem_singleton.mp hmem] at hsame
    exact ⟨d, path, hfile,
      FileSystem.denotes_of_same_absolute htree hfinds.there hplain hname hsame, rfl⟩
  · rintro ⟨d, path, hfile, hdenotes, rfl⟩
    have hpath : path ≠ "" := by
      rintro rfl
      obtain ⟨before, -, last, hcomponents, -, -⟩ := hdenotes
      cases (name?_of_components hcomponents).1
    exact ⟨_, List.mem_singleton_self _, _, mem_watchTargets.mpr ⟨d, path, hfile, hpath, rfl⟩,
      (FileSystem.same_absolute_iff htree hfinds.there hplain hname).mpr hdenotes, rfl⟩

/-- Several changes concern what each of them does. -/
theorem mem_affected_iff_exists {paths : List String} {identifier : String} :
    identifier ∈ affected targets paths
      ↔ ∃ path ∈ paths, identifier ∈ affected targets [path] := by
  simp only [mem_affected, List.mem_singleton]
  constructor
  · rintro ⟨path, hpath, ht⟩
    exact ⟨path, hpath, path, rfl, ht⟩
  · rintro ⟨path, hpath, _, heq, ht⟩
    exact ⟨path, hpath, heq ▸ ht⟩

/-- For settings and files of any kind, as long as the files are a tree. A
path that ends in a name, in a directory that is there, is watched as the
path of its entry: the canonical directory, which is where the steps
before the name lead, and the name. Nobody asks whether a file is there. A
changed entry of a canonical directory concerns the commands of exactly
the settings that denote it. Several changes concern what each of them
does, in whatever order and however often they come, and each command is
named once. A setting without a path, or with an empty one, is not
watched, and every other one is. -/
theorem changed_entry_concerns_its_spellings (htree : files.IsTree) (config : Config) :
    let targets := watchTargets files config
    (∀ (d : Dataset) (path : String) (directory : List Step) (name : String) (place : Place),
        d.file? config = some path → parent? path = some directory → name? path = some name →
        files.canonical directory = .ok place →
          watchTarget? files (d.file? config) d.policy
              = some ⟨(place ++ [name] : Place).path, d.policy.identifier⟩
            ∧ files.Finds directory place ∧ files.entry path = place ++ [name])
      ∧ (∀ (directory : List Step) (place : Place) (name : String),
          files.canonical directory = .ok place → IsName name →
          ∀ identifier, identifier ∈ affected targets [(place ++ [name] : Place).path]
            ↔ ∃ (d : Dataset) (path : String), d.file? config = some path
                ∧ files.Denotes path (place ++ [name]) ∧ identifier = d.policy.identifier)
      ∧ (∀ paths identifier, identifier ∈ affected targets paths
          ↔ ∃ path ∈ paths, identifier ∈ affected targets [path])
      ∧ (∀ paths others, (∀ path, path ∈ paths ↔ path ∈ others) →
          affected targets paths = affected targets others)
      ∧ (∀ paths, ByteAscending (affected targets paths))
      ∧ targets = Dataset.all.filterMap (fun d => watchTarget? files (d.file? config) d.policy)
      ∧ ∀ d : Dataset, watchTarget? files (d.file? config) d.policy = none
          ↔ d.file? config = none ∨ d.file? config = some "" := by
  intro targets
  refine ⟨?_, ?_, fun _ _ => mem_affected_iff_exists, fun paths others => affected_congr,
    fun paths => byteAscending_toList _, rfl, fun d => watchTarget?_eq_none_iff⟩
  · intro d path directory name place hfile hparent hname hdirectory
    rw [hfile]
    exact watchTarget?_of_canonical hparent hname hdirectory
  · intro directory place name hdirectory hname identifier
    exact mem_affected_entry_iff htree hdirectory hname

/-- A directory with a link to the root in it. -/
theorem FileSystem.isTree_makeLink_empty :
    ((FileSystem.empty ["srv"]).makeLink "link" "/").IsTree := by
  have hempty : (FileSystem.empty ["srv"]).IsTree := by
    refine FileSystem.isTree_empty fun name hname => ?_
    obtain rfl : name = "srv" := List.mem_singleton.mp hname
    exact ⟨⟨by decide, by decide, by decide, by decide⟩, by decide, by decide⟩
  refine hempty.makeLink ?_ (by decide +kernel : _ = ["srv"] ++ ["link"]) (by decide)
    ⟨by decide, by decide, by decide, by decide⟩ (by decide) (by decide)
  decide +kernel

/-- Three ways to write a file that is not there yet, one of them through a
link to the root, and another file: from the root itself, two dots lead to
the root. -/
theorem changed_entry_concerns_its_spellings_of_three :
    let files := (FileSystem.empty ["srv"]).makeLink "link" "/"
    let config : Config :=
      { groups := { file := some "./g" }
        whitelist := { fixedFile := some "/srv//g/", variableFile := some "link/srv/../srv/g" }
        password := { file := some "link/../g" } }
    let targets := watchTargets files config
    files.IsTree ∧ files.canonical [.root, .into "srv"] = .ok ["srv"] ∧ IsName "g"
      ∧ (∀ identifier, identifier ∈ affected targets [Place.path ["srv", "g"]]
          ↔ ∃ (d : Dataset) (path : String), d.file? config = some path
              ∧ files.Denotes path ["srv", "g"] ∧ identifier = d.policy.identifier)
      ∧ affected targets [Place.path ["srv", "g"]]
          = [Policy.groups.identifier, Policy.whitelist.identifier] := by
  intro files config targets
  have htree : files.IsTree := FileSystem.isTree_makeLink_empty
  have hname : IsName "g" := ⟨by decide, by decide, by decide, by decide⟩
  have hdirectory : files.canonical [.root, .into "srv"] = .ok ["srv"] := by decide +kernel
  exact ⟨htree, hdirectory, hname,
    (changed_entry_concerns_its_spellings htree _).2.1 _ ["srv"] "g" hdirectory hname,
    by decide +kernel⟩

end Warden
