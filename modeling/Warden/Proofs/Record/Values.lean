/-
The values of a comma separated field.

# Contents

`splitValues` walks over the parts of a field and keeps each part that it
has not kept before. What has not been kept before has not stood before
either, so the values are the parts at the places where they stand for
the first time (`firsts_eq_atFirstPlaces`, for any list). Everything else
follows from the law of going on (`foldl_kept`): a field that continues
another adds the values that are new.

# Joining

A value has no comma in it and no blank at its ends, and the values are
distinct, so joined by commas they are split as they were
(`splitValues_intercalate`). Splitting is a projection therefore, from
fields onto lists of such values.
-/
import Mathlib.Data.List.Induction
import Mathlib.Data.List.Nodup
import Warden.Proofs.Text.Joined
import Warden.Record.Reader

namespace Warden

namespace Text

variable {α : Type} [BEq α] [LawfulBEq α]

-- ========================================================== first places

/-- The members of a list at the places before which they do not stand. -/
def atFirstPlaces (l : List α) : List α :=
  (l.zipIdx.filter fun p => !(l.take p.2).contains p.1).map Prod.fst

/-- One more member is at a first place if it is new, and the places
before it are what they were. -/
theorem atFirstPlaces_concat (l : List α) (a : α) :
    atFirstPlaces (l ++ [a]) = atFirstPlaces l ++ [a].filter fun b => !l.contains b := by
  have hbefore : ∀ p ∈ l.zipIdx,
      (!((l ++ [a]).take p.2).contains p.1) = !(l.take p.2).contains p.1 := by
    intro p hp
    rw [List.take_append_of_le_length (Nat.le_of_lt (List.mem_zipIdx' hp).1)]
  have hlast : (l ++ [a]).take l.length = l := List.take_left' rfl
  unfold atFirstPlaces
  rw [List.zipIdx_append, List.filter_append, List.map_append, List.filter_congr hbefore]
  congr 1
  by_cases ha : a ∈ l <;> simp [hlast, ha]

/-- First occurrences are the elements at their first places. -/
theorem firsts_eq_atFirstPlaces (l : List α) : firsts l = atFirstPlaces l := by
  induction l using List.reverseRecOn with
  | nil => rfl
  | append_singleton l a ih =>
      have hnew : ∀ b ∈ firsts [a], (!(firsts l).contains b) = !l.contains b := by
        simp [mem_firsts]
      rw [firsts_append, List.filter_congr hnew, ih, atFirstPlaces_concat]
      rfl

/-- What stands for the first time does so under other names as well. -/
theorem map_firsts {β : Type} [BEq β] [LawfulBEq β] {f : α → β} (hf : f.Injective)
    (l : List α) : (firsts l).map f = firsts (l.map f) := by
  induction l with
  | nil => rfl
  | cons a r ih =>
      have hsame : (fun b => !b == a) = (fun b => !b == f a) ∘ f := by
        funext b
        simp [hf.eq_iff]
      rw [List.map_cons, firsts_cons, firsts_cons, ← ih, List.map_cons, hsame, List.filter_map]

end Text

open Text

variable {field v : String}

-- ================================================================= parts

/-- The parts of a field between commas, trimmed, those left empty
dropped. -/
def commaParts (field : String) : List String :=
  (((field.toList.splitOn ',').map trim).filter (· ≠ [])).map String.ofList

theorem commaParts_eq (field : String) :
    commaParts field = (tokens ',' field.toList).map String.ofList := by
  have hempty : (fun p : List Char => !p.isEmpty) = fun p => decide (p ≠ []) := by
    funext p
    cases p <;> rfl
  rw [commaParts, ← pieces_eq_splitOn, tokens, hempty]

/-- Parts between commas are trimmed pieces that are not empty. -/
theorem mem_commaParts :
    v ∈ commaParts field ↔ v ≠ "" ∧ ∃ p ∈ field.toList.splitOn ',', trim p = v.toList := by
  have hmem : v ∈ commaParts field ↔ v.toList ∈ tokens ',' field.toList := by
    rw [commaParts_eq, List.mem_map]
    constructor
    · rintro ⟨t, ht, rfl⟩
      rwa [String.toList_ofList]
    · exact fun ht => ⟨v.toList, ht, String.ofList_toList⟩
  rw [hmem, mem_tokens, ← pieces_eq_splitOn]
  exact and_congr_left fun _ => not_congr String.toList_eq_nil_iff

/-- A comma between two texts separates their parts. -/
theorem commaParts_append (s t : String) :
    commaParts (s ++ "," ++ t) = commaParts s ++ commaParts t := by
  have hjoined : (s ++ "," ++ t).toList = s.toList ++ ',' :: t.toList := by simp
  simp only [commaParts_eq, hjoined, tokens_append_cons, List.map_append]

-- ================================================================ values

/-- The loop over the parts keeps the first ones. -/
theorem splitValues_eq_firsts (field : String) :
    splitValues field = firsts (commaParts field) := by
  rw [splitValues, values, map_firsts (fun _ _ => String.ofList_injective), commaParts_eq]

/-- Values are these parts, each once. -/
theorem mem_splitValues :
    v ∈ splitValues field ↔ v ≠ "" ∧ ∃ p ∈ field.toList.splitOn ',', trim p = v.toList := by
  rw [splitValues_eq_firsts, mem_firsts, mem_commaParts]

/-- A value that splitting gives can stand between commas. -/
theorem separable_of_mem_splitValues (hv : v ∈ splitValues field) :
    v ≠ "" ∧ Trimmed v.toList ∧ ',' ∉ v.toList := by
  obtain ⟨hne, p, hp, htrim⟩ := mem_splitValues.mp hv
  refine ⟨hne, htrim ▸ trimmed_trim p, ?_⟩
  rw [← htrim]
  rw [← pieces_eq_splitOn] at hp
  exact notMem_trim (notMem_of_mem_pieces ',' hp)

/-- Distinct values of that kind are split as they were joined. -/
theorem splitValues_intercalate {vs : List String} (hnodup : vs.Nodup)
    (hvs : ∀ v ∈ vs, v ≠ "" ∧ Trimmed v.toList ∧ ',' ∉ v.toList) :
    splitValues (",".intercalate vs) = vs := by
  have hjoined : (",".intercalate vs).toList = List.intercalate [','] (vs.map String.toList) :=
    String.toList_intercalate
  rw [splitValues, hjoined, values_intercalate (hnodup.map fun _ _ => String.toList_injective)]
  · simp [List.map_map]
  · intro p hp
    obtain ⟨v, hv, rfl⟩ := List.mem_map.mp hp
    obtain ⟨hne, htrimmed, hcomma⟩ := hvs v hv
    exact ⟨mt String.toList_eq_nil_iff.mp hne, trim_eq_self htrimmed, hcomma⟩

/-- The values of a field are its parts between commas, trimmed and not
empty, each at the place where it stands for the first time. So they are
distinct, no part is lost and none is invented, none of them is empty or
has blanks around it, joined by commas they are split as they were, and a
field that goes on after a comma adds the values that are new. -/
theorem splitValues_are_first_parts (s t : String) :
    splitValues s = atFirstPlaces (commaParts s)
      ∧ (splitValues s).Nodup
      ∧ (∀ v, v ∈ splitValues s
          ↔ v ≠ "" ∧ ∃ p ∈ s.toList.splitOn ',', trim p = v.toList)
      ∧ (∀ v ∈ splitValues s, v ≠ "" ∧ Trimmed v.toList)
      ∧ splitValues (",".intercalate (splitValues s)) = splitValues s
      ∧ splitValues (s ++ "," ++ t)
          = splitValues s ++ (splitValues t).filter fun v => v ∉ splitValues s := by
  have hnodup : (splitValues s).Nodup := by
    rw [splitValues_eq_firsts]
    exact nodup_firsts _
  refine ⟨?_, hnodup, fun v => mem_splitValues, fun v hv => ?_, ?_, ?_⟩
  · rw [splitValues_eq_firsts, firsts_eq_atFirstPlaces]
  · obtain ⟨hne, htrimmed, -⟩ := separable_of_mem_splitValues hv
    exact ⟨hne, htrimmed⟩
  · exact splitValues_intercalate hnodup fun v hv => separable_of_mem_splitValues hv
  · rw [splitValues_eq_firsts, splitValues_eq_firsts, splitValues_eq_firsts, commaParts_append,
      firsts_append]
    simp only [List.contains_eq_mem, decide_not]

/-- Blanks within a value stay, and a value that comes again does not. -/
theorem splitValues_are_first_parts_of_repeats :
    let s := " b c,a , ,b c"
    splitValues s = ["b c", "a"]
      ∧ "b c" ∈ splitValues s ∧ Trimmed "b c".toList
      ∧ splitValues (s ++ "," ++ "d,,a") = ["b c", "a", "d"] := by
  intro s
  obtain ⟨-, -, -, hform, -, happend⟩ := splitValues_are_first_parts s "d,,a"
  have hs : splitValues s = ["b c", "a"] := by decide
  have hmem : "b c" ∈ splitValues s := by
    rw [hs]
    exact List.mem_cons_self
  refine ⟨hs, hmem, (hform _ hmem).2, ?_⟩
  rw [happend, hs]
  decide

end Warden
