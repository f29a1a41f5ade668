/-
What a path names.

# Contents

The steps of a path and its components differ in steps that stay alone
(`mem_components`, `components_of_steps_concat`), and only the first of
them can lead to the root (`root_notMem_of_steps_eq_cons`). A path with a
name of its own is a directory and that name (`components_of_name?`), and
a name in a path is one that can be written between slashes (`IsName`).

A place is written as the path of its names from the root; read again,
that path has these names as its components (`components_path`).
-/
import Warden.FileSystem
import Warden.Proofs.Text.Pieces

namespace Warden

open Text Warden.Path

-- =================================================================== names

/-- A name that can be written between slashes. -/
structure Path.IsName (name : String) : Prop where
  ne_empty : name ≠ ""
  ne_here : name ≠ "."
  ne_up : name ≠ ".."
  slash : '/' ∉ name.toList

namespace Path

variable {path : String} {name : String} {directory : List Step} {place : Place}

/-- A step is to the root, stays, or is one of the pieces between slashes. -/
theorem mem_steps {s : Step} (hs : s ∈ steps path) :
    s = .root ∨ s = .here ∨ ∃ p ∈ pieces '/' path.toList, p ≠ [] ∧ s = .ofPiece p := by
  simp only [steps, List.mem_append, List.mem_map, List.mem_filter, Bool.not_eq_true',
    List.isEmpty_eq_false_iff] at hs
  rcases hs with (hstart | ⟨p, ⟨hpiece, hne⟩, rfl⟩) | hclose
  · split at hstart
    · exact .inl (List.mem_singleton.mp hstart)
    · cases hstart
  · exact .inr (.inr ⟨p, hpiece, hne, rfl⟩)
  · split at hclose
    · exact .inr (.inl (List.mem_singleton.mp hclose))
    · cases hclose

/-- The first step always counts. -/
theorem components_of_steps_eq_cons {s : Step} {rest : List Step} (h : steps path = s :: rest) :
    components path = s :: rest.filter (· ≠ .here) := by
  unfold components
  rw [h]
  cases s with
  | here => rfl
  | root | up | into name => exact List.filter_cons_of_pos (by simp)

/-- Components are steps of the path. -/
theorem mem_components {s : Step} (hs : s ∈ components path) : s ∈ steps path := by
  cases hsteps : steps path with
  | nil =>
      rw [components, hsteps] at hs
      cases hs
  | cons first rest =>
      rw [components_of_steps_eq_cons hsteps] at hs
      exact List.cons_subset_cons first (List.filter_sublist.subset) hs

/-- The names in a path can be written between slashes, as they are there. -/
theorem isName_of_mem_components (hs : .into name ∈ components path) : IsName name := by
  rcases mem_steps (mem_components hs) with hroot | hhere | ⟨p, hpiece, hne, hstep⟩
  · cases hroot
  · cases hhere
  · unfold Step.ofPiece at hstep
    split at hstep
    case isTrue => cases hstep
    case isFalse hhere =>
      split at hstep
      case isTrue => cases hstep
      case isFalse hup =>
        injection hstep with hname
        subst hname
        have heq (t : String) : String.ofList p = t → p = t.toList := by
          rintro rfl
          rw [String.toList_ofList]
        exact ⟨fun h => hne (heq _ h), fun h => hhere (heq _ h), fun h => hup (heq _ h),
          by rw [String.toList_ofList]; exact notMem_of_mem_pieces '/' hpiece⟩

/-- A path with a name of its own is its parent and then this name. -/
theorem components_of_name? (hname : name? path = some name) :
    ∃ directory, parent? path = some directory
      ∧ components path = directory ++ [.into name] := by
  unfold name? at hname
  split at hname
  case h_2 => cases hname
  case h_1 last hlast =>
    injection hname with hname
    subst hname
    obtain ⟨directory, hcomponents⟩ := List.getLast?_eq_some_iff.mp hlast
    refine ⟨directory, ?_, hcomponents⟩
    simp [parent?, front, hcomponents]

/-- What ends in a step into a name has this name and this parent. -/
theorem name?_of_components (h : components path = directory ++ [.into name]) :
    name? path = some name ∧ parent? path = some directory := by
  simp [name?, parent?, front, h]

/-- Unless the last component is the root, what stands before it is a
parent. -/
theorem parent?_of_components {s : Step} (h : components path = directory ++ [s])
    (hs : s ≠ .root) : parent? path = some directory ∧ front path = directory := by
  cases s with
  | root => exact absurd rfl hs
  | here | up | into name => simp [parent?, front, h]

/-- Paths are the same if they have the same components. -/
theorem same_iff {p q : String} : same p q = true ↔ components p = components q := by
  simp [same]

-- ============================================================ first and last

/-- No piece leads to the root. -/
theorem ofPiece_ne_root (piece : List Char) : Step.ofPiece piece ≠ .root := by
  unfold Step.ofPiece
  split
  · nofun
  · split <;> nofun

/-- Only the first step of a path can be to the root. -/
theorem root_notMem_of_steps_eq_cons {s : Step} {rest : List Step} (h : steps path = s :: rest) :
    .root ∉ rest := by
  have hnamed : ∀ parts : List (List Char), .root ∉ parts.map Step.ofPiece := by
    intro parts hroot
    obtain ⟨part, -, hstep⟩ := List.mem_map.mp hroot
    exact ofPiece_ne_root part hstep
  have hclose : .root ∉ (if path.toList.getLast? = some '/' then [Step.here] else []) := by
    split <;> simp
  simp only [steps] at h
  split at h
  · simp only [List.cons_append, List.cons.injEq] at h
    rw [← h.2]
    exact fun hroot => (List.mem_append.mp hroot).elim (hnamed _) hclose
  · rw [List.nil_append] at h
    intro hroot
    have hmem : .root ∈ s :: rest := List.mem_cons_of_mem _ hroot
    rw [← h] at hmem
    exact (List.mem_append.mp hmem).elim (hnamed _) hclose

/-- A path all of whose pieces are empty is slashes alone. -/
theorem eq_slash_of_pieces {s : List Char} (h : ∀ p ∈ pieces '/' s, p = []) :
    ∀ c ∈ s, c = '/' := by
  induction s with
  | nil => simp
  | cons c rest ih =>
      by_cases hc : c = '/'
      · subst hc
        rw [pieces_cons_self] at h
        simpa using ih fun p hp => h p (List.mem_cons_of_mem _ hp)
      · obtain ⟨others, hpieces⟩ := pieces_eq_cons '/' rest
        rw [pieces_cons_of_ne _ hc hpieces] at h
        exact absurd (h _ List.mem_cons_self) (by simp)

/-- Not every step of a path that is written leads to the root: if it is
written with slashes alone, the closing one stays. -/
theorem exists_mem_steps_ne_root (hpath : path ≠ "") : ∃ s ∈ steps path, s ≠ .root := by
  refine Classical.byContradiction fun hnone => ?_
  have hroot : ∀ s ∈ steps path, s = .root := fun s hs =>
    Classical.byContradiction fun hne => hnone ⟨s, hs, hne⟩
  have hpieces : ∀ p ∈ pieces '/' path.toList, p = [] := by
    refine fun p hp => Classical.byContradiction fun hne => ?_
    have hmem : Step.ofPiece p ∈ steps path := by
      simp only [steps, List.mem_append, List.mem_map, List.mem_filter]
      exact .inl (.inr ⟨p, ⟨hp, by simpa using hne⟩, rfl⟩)
    exact ofPiece_ne_root p (hroot _ hmem)
  have hlast : path.toList.getLast? = some '/' := by
    have hchars : path.toList ≠ [] := by simpa using hpath
    rw [List.getLast?_eq_some_getLast hchars]
    exact congrArg some (eq_slash_of_pieces hpieces _ (List.getLast_mem hchars))
  have hclose : .here ∈ steps path := by
    simp [steps, hlast]
  cases hroot _ hclose

/-- After the first component, none is to the root and none stays. -/
theorem ne_of_components_eq_cons {first : Step} {rest : List Step}
    (h : components path = first :: rest) : ∀ s ∈ rest, s ≠ .root ∧ s ≠ .here := by
  cases hsteps : steps path with
  | nil =>
      rw [components, hsteps] at h
      cases h
  | cons s named =>
      rw [components_of_steps_eq_cons hsteps] at h
      obtain ⟨rfl, rfl⟩ := List.cons.inj h
      intro t ht
      obtain ⟨hmem, hstay⟩ := List.mem_filter.mp ht
      exact ⟨fun hroot => root_notMem_of_steps_eq_cons hsteps (hroot ▸ hmem), by simpa using hstay⟩

/-- Whatever stands before the last component leads to the root at its
start alone. -/
theorem root_notMem_tail_front (path : String) : .root ∉ (front path).tail := by
  intro hroot
  cases hcomponents : components path with
  | nil =>
      rw [front, hcomponents] at hroot
      cases hroot
  | cons first rest =>
      rw [front, hcomponents, List.tail_dropLast, List.tail_cons] at hroot
      exact (ne_of_components_eq_cons hcomponents _ (List.dropLast_subset _ hroot)).1 rfl

/-- A path that does not end in a step that stays ends in the step that its
components end in. -/
theorem components_of_steps_concat {l : List Step} {s : Step} (hsteps : steps path = l ++ [s])
    (hs : s ≠ .here) : ∃ directory, components path = directory ++ [s] := by
  cases l with
  | nil => exact ⟨[], components_of_steps_eq_cons hsteps⟩
  | cons first rest =>
      rw [List.cons_append] at hsteps
      refine ⟨first :: rest.filter (· ≠ .here), ?_⟩
      rw [components_of_steps_eq_cons hsteps, List.filter_append]
      simp [hs]

-- ============================================================ written places

/-- A name as a piece is the step into it. -/
theorem ofPiece_toList (hname : IsName name) : Step.ofPiece name.toList = .into name := by
  have hne (t : String) (h : name ≠ t) : name.toList ≠ t.toList :=
    fun heq => h (String.toList_inj.mp heq)
  unfold Step.ofPiece
  have hhere : name.toList ≠ ['.'] := hne "." hname.ne_here
  have hup : name.toList ≠ ['.', '.'] := hne ".." hname.ne_up
  rw [if_neg hhere, if_neg hup, String.ofList_toList]

/-- The path of a place leads from the root through its names. -/
theorem components_path (hplace : ∀ name ∈ place, IsName name) :
    components place.path = .root :: place.map .into := by
  have hchars : place.path.toList
      = '/' :: List.intercalate ['/'] (place.map String.toList) := by
    simp [Place.path, String.toList_intercalate]
  have hpieces : (pieces '/' place.path.toList).filter (fun p => !p.isEmpty)
      = place.map String.toList := by
    rw [hchars, pieces_cons_self, List.filter_cons_of_neg (by simp)]
    by_cases hne : place = []
    · subst hne
      rfl
    · rw [pieces_intercalate '/' (by simpa using hne)]
      · rw [List.filter_eq_self]
        intro p hp
        obtain ⟨name, hname, rfl⟩ := List.mem_map.mp hp
        simpa using (hplace name hname).ne_empty
      · intro p hp
        obtain ⟨name, hname, rfl⟩ := List.mem_map.mp hp
        exact (hplace name hname).slash
  have hnamed : (place.map String.toList).map Step.ofPiece = place.map .into := by
    rw [List.map_map]
    exact List.map_congr_left fun name hname => ofPiece_toList (hplace name hname)
  have hsteps : ∃ close, steps place.path = .root :: place.map .into ++ close
      ∧ ∀ s ∈ close, s = .here := by
    refine ⟨if place.path.toList.getLast? = some '/' then [.here] else [], ?_, ?_⟩
    · simp only [steps, hpieces, hnamed]
      simp [hchars]
    · intro s hs
      split at hs
      · exact List.mem_singleton.mp hs
      · cases hs
  obtain ⟨close, hsteps, hclose⟩ := hsteps
  have hkept : (place.map Step.into).filter (· ≠ .here) = place.map .into := by
    simp [List.filter_eq_self]
  have hdropped : close.filter (· ≠ .here) = [] := by
    simpa [List.filter_eq_nil_iff] using hclose
  simp only [components, hsteps, List.cons_append, List.filter_append, List.filter_cons, hkept,
    hdropped, List.append_nil]
  rfl

end Path

end Warden
