/-
Parts joined by a separator, and what is read off the whole.

# Contents

The counterpart of cutting into pieces. A joined text begins as its first
part does and ends as its last (`head?_intercalate`,
`getLast?_intercalate`), so it is trimmed if these two are and are not
empty (`trim_intercalate`); parts between them may be empty. Tokens and
lines come back as they were joined, if none of them is empty
(`tokens_intercalate`, `lines_intercalate`): where that fails, a token is
dropped, and a last line is none.
-/
import Mathlib.Data.List.Basic
import Warden.Proofs.Text.Pieces

namespace Warden.Text

variable (d : Char)

-- ================================================================== ends

/-- Joined texts begin as the first of them. -/
theorem head?_intercalate {first : List Char} (hne : first ≠ []) (rest : List (List Char)) :
    (List.intercalate [d] (first :: rest)).head? = first.head? := by
  cases rest with
  | nil => rw [List.intercalate_singleton]
  | cons p ps =>
      rw [List.intercalate_cons_cons, List.append_assoc]
      exact List.head?_append_of_ne_nil first hne

/-- Joined texts end as the last of them. -/
theorem getLast?_intercalate {last : List Char} (hne : last ≠ []) (init : List (List Char)) :
    (List.intercalate [d] (init ++ [last])).getLast? = last.getLast? := by
  induction init with
  | nil => rw [List.nil_append, List.intercalate_singleton]
  | cons p ps ih =>
      -- What follows is not empty, since it ends as the last part does.
      have hrest : List.intercalate [d] (ps ++ [last]) ≠ [] := by
        intro hnil
        rw [hnil] at ih
        exact hne (List.getLast?_eq_none_iff.mp ih.symm)
      rw [List.cons_append, List.intercalate_cons_of_ne_nil (List.concat_ne_nil _ ps),
        List.getLast?_append_of_ne_nil _ hrest, ih]

/-- Joining brings in nothing but the delimiter. -/
theorem notMem_intercalate {c : Char} (hc : c ≠ d) {parts : List (List Char)}
    (hparts : ∀ p ∈ parts, c ∉ p) : c ∉ List.intercalate [d] parts := by
  induction parts with
  | nil => exact List.not_mem_nil
  | cons p ps ih =>
      have hrest := ih fun q hq => hparts q (List.mem_cons_of_mem p hq)
      cases ps with
      | nil =>
          rw [List.intercalate_singleton]
          exact hparts p List.mem_cons_self
      | cons q qs =>
          rw [List.intercalate_cons_cons]
          simp [hparts p List.mem_cons_self, hc, hrest]

theorem trim_eq_self_iff {s : List Char} : trim s = s ↔ Trimmed s :=
  ⟨fun h => h ▸ trimmed_trim s, trim_eq_self⟩

/-- Only the first and the last of the parts are met by trimming. -/
theorem trim_intercalate {parts : List (List Char)} (htrim : ∀ p ∈ parts, trim p = p)
    (hfirst : parts.head? ≠ some []) (hlast : parts.getLast? ≠ some []) :
    trim (List.intercalate [d] parts) = List.intercalate [d] parts := by
  rw [trim_eq_self_iff]
  constructor
  · cases parts with
    | nil => exact fun c hc => nomatch hc
    | cons first rest =>
        have hne : first ≠ [] := fun h => hfirst (by rw [h, List.head?_cons])
        rw [head?_intercalate d hne]
        exact (trim_eq_self_iff.mp (htrim first List.mem_cons_self)).1
  · rcases parts.eq_nil_or_concat with rfl | ⟨init, last, rfl⟩
    · exact fun c hc => nomatch hc
    · rw [List.concat_eq_append] at htrim hlast ⊢
      have hne : last ≠ [] := fun h => hlast (by rw [h, List.getLast?_concat])
      rw [getLast?_intercalate d hne]
      exact (trim_eq_self_iff.mp (htrim last (List.mem_append_right init List.mem_cons_self))).2

-- ============================================================== read back

/-- A trimmed text without the delimiter is its only token. -/
theorem tokens_of_notMem {s : List Char} (hs : d ∉ s) (hne : s ≠ []) (htrim : trim s = s) :
    tokens d s = [s] := by
  simp [tokens, pieces_of_notMem d hs, htrim, hne]

/-- Trimmed texts that are joined are the tokens of what they are joined to. -/
theorem tokens_intercalate {parts : List (List Char)}
    (hparts : ∀ p ∈ parts, p ≠ [] ∧ trim p = p ∧ d ∉ p) :
    tokens d (List.intercalate [d] parts) = parts := by
  induction parts with
  | nil => rfl
  | cons p ps ih =>
      obtain ⟨hne, htrim, hd⟩ := hparts p List.mem_cons_self
      have hrest := ih fun q hq => hparts q (List.mem_cons_of_mem p hq)
      cases ps with
      | nil => rw [List.intercalate_singleton, tokens_of_notMem d hd hne htrim]
      | cons q qs =>
          rw [List.intercalate_cons_cons, List.append_assoc, List.singleton_append,
            tokens_append_cons, hrest, tokens_of_notMem d hd hne htrim, List.singleton_append]

/-- A line that is not empty needs no newline to be one. -/
theorem lines_of_notMem {s : List Char} (hs : '\n' ∉ s) (hne : s ≠ []) : lines s = [s] := by
  induction s with
  | nil => exact absurd rfl hne
  | cons c r ih =>
      obtain ⟨hc, hr⟩ := List.ne_and_not_mem_of_not_mem_cons hs
      cases r with
      | nil => simp [lines, Ne.symm hc]
      | cons x xs => rw [lines, if_neg (Ne.symm hc), ih hr (List.cons_ne_nil x xs)]

/-- Lines that are neither empty nor hold a newline are the lines of the
text that they are joined to. -/
theorem lines_intercalate {ls : List (List Char)} (hls : ∀ l ∈ ls, l ≠ [] ∧ '\n' ∉ l) :
    lines (List.intercalate ['\n'] ls) = ls := by
  induction ls with
  | nil => rfl
  | cons l rest ih =>
      obtain ⟨hne, hnewline⟩ := hls l List.mem_cons_self
      have hrest := ih fun k hk => hls k (List.mem_cons_of_mem l hk)
      cases rest with
      | nil => rw [List.intercalate_singleton, lines_of_notMem hnewline hne]
      | cons k ks =>
          rw [List.intercalate_cons_cons, List.append_assoc, List.singleton_append,
            lines_append_cons, hrest, pieces_of_notMem '\n' hnewline, List.singleton_append]

/-- Trimmed values of which none comes twice are the values of the field
that they are joined to. -/
theorem values_intercalate {parts : List (List Char)} (hnodup : parts.Nodup)
    (hparts : ∀ p ∈ parts, p ≠ [] ∧ trim p = p ∧ ',' ∉ p) :
    values (List.intercalate [','] parts) = parts := by
  rw [values, tokens_intercalate ',' hparts, firsts_of_nodup hnodup]

end Warden.Text
