/-
Trees, and the places that canonical paths lead to.

# Contents

`FileSystem.IsTree` is what the places of a file system are like: above
all that is there are directories, so that files and symbolic links are
at the ends, and names can be written between slashes. In a tree, a path
is canonical if its steps lead to something (`IsTree.canonical_eq_ok_iff`),
for what is passed on the way is there and has a proper name. What a
canonical path leads to is no link. The path of a place that is no link
leads back to it (`IsTree.canonical_path`), since nothing above it is
one; that makes a place and its path two words for one thing.
-/
import Warden.Proofs.Files.Walking

namespace Warden

open Warden.Path

namespace FileSystem

/-- A tree of directories, with the working directory in it. -/
structure IsTree (files : FileSystem) : Prop where
  working : files.node files.working = some .directory
  /-- Above all that is there, there are directories. -/
  above : ∀ {place above : Place}, (files.node place).isSome = true → above <+: place →
    above ≠ place → files.node above = some .directory
  names : ∀ {place : Place} {name : String}, (files.node place).isSome = true → name ∈ place →
    IsName name
  /-- No name is too long, or holds a NUL character. -/
  stored : ∀ {place : Place} {name : String}, (files.node place).isSome = true → name ∈ place →
    name.utf8ByteSize ≤ maxName ∧ '\x00' ∉ name.toList

variable {files : FileSystem} {links : Nat} {place goal : Place} {l : List Step} {name : String}

/-- An empty working directory, with those above it, is a tree. -/
theorem isTree_empty {working : Place}
    (hnames : ∀ name ∈ working,
      IsName name ∧ name.utf8ByteSize ≤ maxName ∧ '\x00' ∉ name.toList) :
    (empty working).IsTree := by
  have hnode {place : Place} : ((empty working).node place).isSome = true ↔ place <+: working := by
    simp only [empty]
    split <;> simp_all
  refine ⟨if_pos (List.prefix_refl _), fun hplace habove _ => ?_, fun hplace hname => ?_,
    fun hplace hname => ?_⟩
  · exact if_pos (habove.trans (hnode.mp hplace))
  · exact (hnames _ ((hnode.mp hplace).subset hname)).1
  · exact (hnames _ ((hnode.mp hplace).subset hname)).2

/-- The root of a tree is a directory. -/
theorem IsTree.root (htree : files.IsTree) : files.node [] = some .directory := by
  by_cases hroot : files.working = []
  · have hworking := htree.working
    rwa [hroot] at hworking
  · exact htree.above (by rw [htree.working]; rfl) List.nil_prefix (Ne.symm hroot)

/-- Above what is there, there is a directory; above the root, itself. -/
theorem IsTree.dropLast (htree : files.IsTree) (hnode : (files.node place).isSome = true) :
    files.node place.dropLast = some .directory := by
  cases place with
  | nil => exact htree.root
  | cons name rest =>
      refine htree.above hnode (List.dropLast_prefix _) fun heq => ?_
      have hlength := congrArg List.length heq
      simp at hlength

/-- Steps start from a directory. -/
theorem IsTree.origin (htree : files.IsTree) (l : List Step) :
    files.node (files.origin l) = some .directory := by
  cases l with
  | nil => exact htree.working
  | cons s rest =>
      cases s with
      | root => exact htree.root
      | here | up | into name => exact htree.working

-- ================================================================ canonical

/-- Canonical steps lead to something. -/
theorem finds_of_canonical_eq_ok (h : files.canonical l = .ok place) : files.Finds l place := by
  unfold canonical at h
  split at h
  case isTrue => cases h
  case isFalse =>
    cases hwalk : files.walk l with
    | error e =>
        rw [hwalk] at h
        cases h
    | ok found =>
        simp only [hwalk, bind, Except.bind] at h
        split at h
        case isTrue hthere =>
          injection h with heq
          exact heq ▸ ⟨leads_iff.mp hwalk, hthere⟩
        case isFalse => cases h

section

variable (htree : files.IsTree)

include htree

/-- What steps pass on the way to something is there. -/
theorem IsTree.isSome_of_mem_passed (hroot : .root ∉ l.tail) (hfinds : files.Finds l place) :
    ∀ q ∈ files.passed l, (files.node q).isSome = true :=
  hfinds.leads.isSome_of_mem_passedOver hroot (by rw [htree.origin]; rfl) hfinds.there

/-- So their names hold no NUL character. -/
theorem IsTree.any_hasNul_eq_false (hroot : .root ∉ l.tail) (hfinds : files.Finds l place) :
    l.any hasNul = false := by
  rw [List.any_eq_false]
  intro s hs
  cases s with
  | root | here | up => exact Bool.false_ne_true
  | into name =>
      obtain ⟨q, hq, hname⟩ := hfinds.leads.exists_mem_passedOver hs
      have hthere := htree.isSome_of_mem_passed hroot hfinds q hq
      simpa [hasNul] using (htree.stored hthere hname).2

/-- What is found is canonical. -/
theorem IsTree.canonical_of_finds (hroot : .root ∉ l.tail) (hfinds : files.Finds l place) :
    files.canonical l = .ok place := by
  have hwalk : files.walk l = .ok place := leads_iff.mpr hfinds.leads
  unfold canonical
  rw [htree.any_hasNul_eq_false hroot hfinds, if_neg Bool.false_ne_true, hwalk]
  simp only [bind, Except.bind, hfinds.there, if_true]

/-- Canonical is what is found. -/
theorem IsTree.canonical_eq_ok_iff (hroot : .root ∉ l.tail) :
    files.canonical l = .ok place ↔ files.Finds l place :=
  ⟨finds_of_canonical_eq_ok, htree.canonical_of_finds hroot⟩

/-- No link is found, but what it leads to. -/
theorem IsTree.link?_of_finds (hfinds : files.Finds l place) : files.link? place = none :=
  hfinds.leads.link?_eq_none (link?_of_directory (htree.origin l))

-- ==================================================================== paths

/-- From a directory of a tree one can walk on to all that is below it, but
for what links lead to. -/
theorem IsTree.leads_below :
    ∀ (below : Place) (place : Place), (files.node (place ++ below)).isSome = true →
      files.link? (place ++ below) = none →
      files.Leads links place (below.map Step.into) (place ++ below) := by
  intro below
  induction below with
  | nil =>
      intro place _ _
      rw [List.append_nil]
      exact .done
  | cons name rest ih =>
      intro place hnode hplain
      have hdirectory : files.node place = some .directory :=
        htree.above hnode (List.prefix_append _ _) (by simp)
      have hstep : files.step place (.into name) = .ok (place ++ [name]) := by
        refine step_eq_ok_iff.mpr ⟨rfl, fun _ => hdirectory, fun n hn => ?_⟩
        injection hn with hn
        exact hn ▸ (htree.stored hnode (by simp)).1
      rw [List.append_cons] at hnode hplain ⊢
      have hmiddle : files.link? (place ++ [name]) = none := by
        by_cases hlast : rest = []
        · subst hlast
          rwa [List.append_nil] at hplain
        · exact link?_of_directory (htree.above hnode (List.prefix_append _ _) (by simpa using hlast))
      exact .next hstep hmiddle (ih (place ++ [name]) hnode hplain)

/-- The path of what is there leads to it, unless it is a link. -/
theorem IsTree.canonical_path (hnode : (files.node place).isSome = true)
    (hplain : files.link? place = none) :
    files.canonical (.root :: place.map .into) = .ok place := by
  rw [htree.canonical_eq_ok_iff (by simp)]
  refine ⟨?_, hnode⟩
  have hroot : files.link? [] = none := link?_of_directory htree.root
  exact .next (step_eq_ok_iff.mpr ⟨rfl, nofun, nofun⟩) hroot (htree.leads_below place [] hnode hplain)

end

-- ================================================================== growing

/-- Where everything is there, no directory is made. -/
theorem makeDirectories_eq_self {places : List Place}
    (h : ∀ p ∈ places, (files.node p).isSome = true) : files.makeDirectories places = files := by
  refine FileSystem.ext rfl (funext fun p => ?_) rfl rfl
  show (files.node p).or (if p ∈ places then some .directory else none) = files.node p
  cases hnode : files.node p with
  | some node => rfl
  | none =>
      rw [if_neg]
      · rfl
      · intro hmem
        have hthere := h p hmem
        rw [hnode] at hthere
        cases hthere

/-- A tree with something new in a directory of it is a tree. -/
theorem IsTree.fill_entry (htree : files.IsTree) (hplace : files.node place = some .directory)
    (hname : IsName name) (hshort : name.utf8ByteSize ≤ maxName) (hnul : '\x00' ∉ name.toList)
    {node : Node} (hnode : ∀ number, node = .file number → number < files.fresh) :
    (files.fill [place ++ [name]] node hnode).IsTree := by
  have hthere {p : Place} (h : ((files.fill [place ++ [name]] node hnode).node p).isSome = true) :
      (files.node p).isSome = true ∨ p = place ++ [name] := by
    simpa [fill, Option.isSome_or] using h
  have hkept {p : Place} (h : files.node p = some .directory) :
      (files.fill [place ++ [name]] node hnode).node p = some .directory := by
    simp [fill, h]
  have hnames {n : String} (h : n ∈ place ++ [name]) : n ∈ place ∨ n = name := by
    simpa using h
  have hsome : (files.node place).isSome = true := by rw [hplace]; rfl
  refine ⟨hkept htree.working, fun {_ higher} h habove hne => hkept ?_, fun h hn => ?_, fun h hn => ?_⟩
  · rcases hthere h with hold | rfl
    · exact htree.above hold habove hne
    · have hunder := (List.prefix_concat_iff.mp habove).resolve_left hne
      by_cases heq : higher = place
      · rwa [heq]
      · exact htree.above hsome hunder heq
  · rcases hthere h with hold | rfl
    · exact htree.names hold hn
    · exact (hnames hn).elim (htree.names hsome) fun heq => heq ▸ hname
  · rcases hthere h with hold | rfl
    · exact htree.stored hold hn
    · exact (hnames hn).elim (htree.stored hsome) fun heq => heq ▸ ⟨hshort, hnul⟩

/-- So it is with a link in a directory that is there. -/
theorem IsTree.makeLink (htree : files.IsTree) {path dest : String}
    (hlookups : ∀ p ∈ files.lookups path, (files.node p).isSome = true)
    (hentry : files.entry path = place ++ [name]) (hplace : files.node place = some .directory)
    (hname : IsName name) (hshort : name.utf8ByteSize ≤ maxName) (hnul : '\x00' ∉ name.toList) :
    (files.makeLink path dest).IsTree := by
  unfold FileSystem.makeLink
  simp only [makeDirectories_eq_self hlookups, hentry]
  exact htree.fill_entry hplace hname hshort hnul _

end FileSystem

end Warden
