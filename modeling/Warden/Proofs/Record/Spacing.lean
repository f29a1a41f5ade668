/-
Blanks at the ends of lines, carriage returns among them.

# Contents

`Widened` is one edit of a text: a newline gets a carriage return in
front, or a line gets a blank at its beginning or its end. `Respaced`
relates the texts that any number of such edits, made or undone, lead to.
One edit leaves every line as it is after trimming
(`trimmedLines_of_widened`), so any number of them does, and nothing else
is left as it is: texts whose lines are the same after trimming are
respaced into each other (`respaced_iff`). For that direction a line is
brought to its trimmed form blank by blank (`respaced_trim`), and a text
line by line (`respaced_intercalate`).

# Reading

A line is trimmed before anything else is asked of it, whether it is
empty, whether it is a comment, or what stands between delimiters. So
reading sees the trimmed lines and their numbers alone
(`spokenLines_eq`). That the last newline ends a line and begins none
makes no difference, for an empty line says nothing; nor does it make one
whether a newline takes the carriage return before it away
(`map_trim_returnLines`).
-/
import Mathlib.Data.List.Forall2
import Mathlib.Logic.Relation
import Warden.Proofs.Text.Pieces
import Warden.Record.Reader

namespace Warden

namespace Text

variable {s t before after : List Char} {c : Char}

-- ================================================================= edits

/-- One edit: a carriage return before a newline, or a blank at the
beginning or the end of a line. -/
inductive Widened : List Char → List Char → Prop
  | carriageReturn (before after : List Char) :
      Widened (before ++ '\n' :: after) (before ++ '\r' :: '\n' :: after)
  | lineStart {before : List Char} {c : Char} (hstart : Ended before) (hc : isBlank c = true)
      (hne : c ≠ '\n') (after : List Char) : Widened (before ++ after) (before ++ c :: after)
  | lineEnd {after : List Char} {c : Char} (hend : after = [] ∨ after.head? = some '\n')
      (hc : isBlank c = true) (hne : c ≠ '\n') (before : List Char) :
      Widened (before ++ after) (before ++ c :: after)

/-- Any number of edits, made or undone. -/
def Respaced : List Char → List Char → Prop := Relation.EqvGen Widened

/-- The lines of a text after trimming, with the empty one that a newline
at the end leaves. -/
def trimmedLines (s : List Char) : List (List Char) := (pieces '\n' s).map trim

-- ============================================================= one edit

/-- Lines are trimmed each for itself. -/
theorem trimmedLines_append_cons (s t : List Char) :
    trimmedLines (s ++ '\n' :: t) = trimmedLines s ++ trimmedLines t := by
  rw [trimmedLines, pieces_append_cons, List.map_append]
  rfl

/-- A blank before a line is trimmed off. -/
theorem trimmedLines_cons_of_isBlank (hc : isBlank c = true) (hne : c ≠ '\n') (s : List Char) :
    trimmedLines (c :: s) = trimmedLines s := by
  obtain ⟨p, ps, hp⟩ := List.exists_cons_of_ne_nil (pieces_ne_nil '\n' s)
  simp [trimmedLines, pieces_cons_of_ne '\n' hne hp, hp, trim_cons_of_isBlank hc]

/-- A blank after the last line is trimmed off. -/
theorem trimmedLines_concat_of_isBlank (hc : isBlank c = true) (hne : c ≠ '\n') (s : List Char) :
    trimmedLines (s ++ [c]) = trimmedLines s := by
  obtain ⟨ps, p, hs, hsc⟩ := pieces_concat_of_ne '\n' hne s
  simp [trimmedLines, hs, hsc, trim_concat_of_isBlank hc]

/-- A blank at the end of a line is not seen. -/
theorem trimmedLines_lineEnd (hend : after = [] ∨ after.head? = some '\n')
    (hc : isBlank c = true) (hne : c ≠ '\n') (before : List Char) :
    trimmedLines (before ++ c :: after) = trimmedLines (before ++ after) := by
  rcases hend with rfl | hnewline
  · rw [List.append_nil, trimmedLines_concat_of_isBlank hc hne]
  · obtain ⟨rest, rfl⟩ : ∃ rest, after = '\n' :: rest := List.head?_eq_some_iff.mp hnewline
    rw [List.append_cons, trimmedLines_append_cons, trimmedLines_append_cons,
      trimmedLines_concat_of_isBlank hc hne]

/-- Nor is one at the beginning. -/
theorem trimmedLines_lineStart (hstart : Ended before) (hc : isBlank c = true) (hne : c ≠ '\n')
    (after : List Char) : trimmedLines (before ++ c :: after) = trimmedLines (before ++ after) := by
  rcases hstart with rfl | hnewline
  · exact trimmedLines_cons_of_isBlank hc hne after
  · obtain ⟨first, rfl⟩ : ∃ first, before = first ++ ['\n'] := List.getLast?_eq_some_iff.mp hnewline
    rw [List.append_assoc, List.append_assoc, List.singleton_append, List.singleton_append,
      trimmedLines_append_cons, trimmedLines_append_cons, trimmedLines_cons_of_isBlank hc hne]

/-- One widening changes no trimmed line. -/
theorem trimmedLines_of_widened (h : Widened s t) : trimmedLines t = trimmedLines s := by
  cases h with
  | carriageReturn before after =>
      exact trimmedLines_lineEnd (.inr rfl) (by decide) (by decide) before
  | lineStart hstart hc hne after => exact trimmedLines_lineStart hstart hc hne after
  | lineEnd hend hc hne before => exact trimmedLines_lineEnd hend hc hne before

namespace Widened

/-- An edit can be made with lines after it. -/
theorem append_lines (h : Widened s t) (rest : List Char) :
    Widened (s ++ '\n' :: rest) (t ++ '\n' :: rest) := by
  cases h with
  | carriageReturn before after => simpa using carriageReturn before (after ++ '\n' :: rest)
  | lineStart hstart hc hne after => simpa using lineStart hstart hc hne (after ++ '\n' :: rest)
  | @lineEnd after c hend hc hne before =>
      have hlater : (after ++ '\n' :: rest).head? = some '\n' := by
        rcases hend with rfl | hnewline
        · rfl
        · rw [List.head?_append, hnewline]
          rfl
      simpa using lineEnd (.inr hlater) hc hne before

/-- And with lines before it. -/
theorem lines_append (first : List Char) (h : Widened s t) :
    Widened (first ++ '\n' :: s) (first ++ '\n' :: t) := by
  cases h with
  | carriageReturn before after => simpa using carriageReturn (first ++ '\n' :: before) after
  | @lineStart before c hstart hc hne after =>
      have hearlier : Ended (first ++ '\n' :: before) := by
        right
        rcases hstart with rfl | hnewline
        · exact List.getLast?_concat
        · rw [List.getLast?_append, List.getLast?_cons, hnewline]
          rfl
      simpa using lineStart hearlier hc hne after
  | lineEnd hend hc hne before => simpa using lineEnd hend hc hne (first ++ '\n' :: before)

end Widened

-- ============================================================ many edits

namespace Respaced

/-- Respacing changes no trimmed line. -/
theorem trimmedLines_eq (h : Respaced s t) : trimmedLines s = trimmedLines t := by
  induction h with
  | rel s t hst => exact (trimmedLines_of_widened hst).symm
  | refl s => rfl
  | symm s t _ ih => exact ih.symm
  | trans s t u _ _ first second => exact first.trans second

/-- What carries one edit over carries any number of them over. -/
theorem lift {f : List Char → List Char} (hf : ∀ s t, Widened s t → Widened (f s) (f t))
    (h : Respaced s t) : Respaced (f s) (f t) := by
  induction h with
  | rel s t hst => exact .rel _ _ (hf s t hst)
  | refl s => exact .refl _
  | symm s t _ ih => exact ih.symm
  | trans s t u _ _ first second => exact first.trans _ _ _ second

/-- Edits can be made with lines after them. -/
theorem append_lines (h : Respaced s t) (rest : List Char) :
    Respaced (s ++ '\n' :: rest) (t ++ '\n' :: rest) :=
  h.lift (f := (· ++ '\n' :: rest)) fun _ _ hst => hst.append_lines rest

/-- And with lines before them. -/
theorem lines_append (first : List Char) (h : Respaced s t) :
    Respaced (first ++ '\n' :: s) (first ++ '\n' :: t) :=
  h.lift (f := (first ++ '\n' :: ·)) fun _ _ hst => hst.lines_append first

-- ===================================================== the trimmed form

/-- Blanks before a text only respace it. -/
theorem blanks_append {b : List Char} (hb : ∀ c ∈ b, isBlank c = true ∧ c ≠ '\n')
    (s : List Char) : Respaced s (b ++ s) := by
  induction b with
  | nil => exact .refl s
  | cons c r ih =>
      obtain ⟨hc, hne⟩ := hb c List.mem_cons_self
      have hrest : Respaced s (r ++ s) := ih fun x hx => hb x (List.mem_cons_of_mem c hx)
      exact hrest.trans _ _ _ (.rel _ _ (.lineStart (.inl rfl) hc hne (r ++ s)))

/-- Blanks after a text only respace it. -/
theorem append_blanks {b : List Char} (hb : ∀ c ∈ b, isBlank c = true ∧ c ≠ '\n')
    (s : List Char) : Respaced s (s ++ b) := by
  induction b generalizing s with
  | nil => rw [List.append_nil]; exact .refl s
  | cons c r ih =>
      obtain ⟨hc, hne⟩ := hb c List.mem_cons_self
      have hfirst : Widened s (s ++ [c]) := by
        simpa using Widened.lineEnd (.inl rfl) hc hne s
      rw [List.append_cons]
      exact .trans _ _ _ (.rel _ _ hfirst) (ih (fun x hx => hb x (List.mem_cons_of_mem c hx)) _)

end Respaced

/-- A line is respaced from its trimmed form. -/
theorem respaced_trim (hs : '\n' ∉ s) : Respaced (trim s) s := by
  obtain ⟨before, after, heq, hbefore, hafter⟩ := exists_eq_append_trim s
  have hone : ∀ c ∈ s, c ≠ '\n' := fun c hc h => hs (h ▸ hc)
  have hfirst : Respaced (trim s) (before ++ trim s) :=
    .blanks_append (fun c hc => ⟨hbefore c hc, hone c (by rw [heq]; simp [hc])⟩) _
  have hsecond : Respaced (before ++ trim s) (before ++ trim s ++ after) :=
    .append_blanks (fun c hc => ⟨hafter c hc, hone c (by rw [heq]; simp [hc])⟩) _
  rw [← heq] at hsecond
  exact hfirst.trans _ _ _ hsecond

/-- Lines that are trimmed are respaced. -/
theorem respaced_intercalate {ls : List (List Char)} (hls : ∀ l ∈ ls, '\n' ∉ l) :
    Respaced (List.intercalate ['\n'] (ls.map trim)) (List.intercalate ['\n'] ls) := by
  induction ls with
  | nil => exact .refl _
  | cons l rest ih =>
      have hline : Respaced (trim l) l := respaced_trim (hls l List.mem_cons_self)
      have hrest := ih fun k hk => hls k (List.mem_cons_of_mem l hk)
      cases rest with
      | nil => simpa using hline
      | cons k ks =>
          rw [List.map_cons, List.map_cons, List.intercalate_cons_cons, List.intercalate_cons_cons,
            List.append_assoc, List.append_assoc, List.singleton_append, List.singleton_append]
          exact .trans _ _ _ (hline.append_lines _) (hrest.lines_append l)

/-- A text is a respacing of its trimmed lines. -/
theorem respaced_trimmedLines (s : List Char) :
    Respaced (List.intercalate ['\n'] (trimmedLines s)) s := by
  have hjoined : List.intercalate ['\n'] (pieces '\n' s) = s := by
    rw [pieces_eq_splitOn]
    exact List.intercalate_splitOn '\n'
  have hlines : Respaced (List.intercalate ['\n'] (trimmedLines s))
      (List.intercalate ['\n'] (pieces '\n' s)) :=
    respaced_intercalate fun l hl => notMem_of_mem_pieces '\n' hl
  rwa [hjoined] at hlines

/-- Edits lead to the texts whose lines are the same after trimming, and to
no others. -/
theorem respaced_iff : Respaced s t ↔ trimmedLines s = trimmedLines t := by
  refine ⟨Respaced.trimmedLines_eq, fun h => ?_⟩
  have hs : Respaced (List.intercalate ['\n'] (trimmedLines s)) s := respaced_trimmedLines s
  have ht : Respaced (List.intercalate ['\n'] (trimmedLines t)) t := respaced_trimmedLines t
  rw [h] at hs
  exact .trans _ _ _ (.symm _ _ hs) ht

-- ====================================================== carriage returns

/-- The lines of a text where a newline takes a carriage return before it
away with it. -/
def returnLines : List Char → List (List Char)
  | [] => []
  | '\n' :: r => [] :: returnLines r
  | '\r' :: '\n' :: r => [] :: returnLines r
  | c :: r =>
    match returnLines r with
    | [] => [[c]]
    | l :: ls => (c :: l) :: ls

/-- They are the lines, up to one carriage return at the end of each. -/
theorem forall₂_returnLines (s : List Char) :
    List.Forall₂ (fun l k => k = l ∨ k = l ++ ['\r']) (returnLines s) (lines s) := by
  induction s using returnLines.induct with
  | case1 => exact .nil
  | case2 r ih => simpa [returnLines, lines] using ih
  | case3 r ih => simpa [returnLines, lines] using ih
  | case4 c r hnewline hreturn hr ih =>
      rw [hr, List.forall₂_nil_left_iff] at ih
      have hc : c ≠ '\n' := hnewline
      rw [returnLines, lines, if_neg hc, hr, ih]
      · exact .cons (.inl rfl) .nil
      · exact hnewline
      · exact hreturn
  | case5 c r hnewline hreturn l ls hr ih =>
      rw [hr] at ih
      obtain ⟨k, ks, hline, hrest, hlines⟩ := List.forall₂_cons_left_iff.mp ih
      have hc : c ≠ '\n' := hnewline
      rw [returnLines, lines, if_neg hc, hr, hlines]
      · exact .cons (hline.imp (congrArg _) (congrArg _)) hrest
      · exact hnewline
      · exact hreturn

/-- Trimming takes it if the newline did not. -/
theorem map_trim_returnLines (s : List Char) : (returnLines s).map trim = (lines s).map trim := by
  have hlines := forall₂_returnLines s
  generalize returnLines s = ls, lines s = ks at hlines
  induction hlines with
  | nil => rfl
  | cons hline _ ih =>
      rw [List.map_cons, List.map_cons, ih]
      rcases hline with rfl | rfl
      · rfl
      · rw [trim_concat_of_isBlank (by decide)]

end Text

open Text

-- =============================================================== reading

/-- What is read of a text is its trimmed lines, with their numbers. -/
theorem spokenLines_eq (s : List Char) :
    spokenLines s
      = ((trimmedLines s).zipIdx 1).filterMap fun p =>
          if isSilent p.1 then none else some (p.2, p.1) := by
  have hspoken : spokenLines s
      = (((lines s).map trim).zipIdx 1).filterMap fun p =>
          if isSilent p.1 then none else some (p.2, p.1) := by
    rw [List.zipIdx_map, List.filterMap_map]
    rfl
  rw [hspoken, trimmedLines]
  rcases pieces_newline s with h | h
  · rw [h]
  · rw [h, List.map_append, List.zipIdx_append, List.filterMap_append]
    simp [trim, trimEnd, trimStart, isSilent]

/-- Respaced texts are read alike. -/
theorem parse_eq_of_respaced {text edited : String} (h : Respaced text.toList edited.toList)
    (layout : Layout) : parse layout edited = parse layout text := by
  have hspoken : spokenLines edited.toList = spokenLines text.toList := by
    rw [spokenLines_eq, spokenLines_eq, h.trimmedLines_eq]
  unfold parse scan
  rw [hspoken]

/-- Blanks at the beginnings and the ends of lines are not read, and nor
are carriage returns before newlines: texts that are respaced into each
other are read alike by every layout, down to the numbers of the lines
and what is reported of the invalid ones, or are refused alike. This
leaves no spacing out, for any two texts with the same trimmed lines are
respaced into each other; and it is the same whether a newline takes the
carriage return before it away or trimming does. -/
theorem spacing_is_not_read :
    (∀ s t : List Char, Respaced s t ↔ trimmedLines s = trimmedLines t)
      ∧ (∀ (layout : Layout) (text edited : String), Respaced text.toList edited.toList →
          parse layout edited = parse layout text)
      ∧ ∀ s : List Char, (returnLines s).map trim = (lines s).map trim :=
  ⟨fun _ _ => respaced_iff, fun layout _ _ h => parse_eq_of_respaced h layout,
    map_trim_returnLines⟩

/-- Fields between tabs, with tabs and other blanks put around them, some
carriage returns, and no newline at the end. -/
theorem spacing_is_not_read_tabs :
    let text := "a\tb\n# c\n\nlonely\nd\te"
    let edited := " a\tb\t\r\n# c  \r\n\u2003\n\tlonely\n\u00a0d\te \r"
    Respaced text.toList edited.toList
      ∧ parse (.fields '\t' 2) edited
        = .ok ⟨[⟨1, "a", ["b"]⟩, ⟨5, "d", ["e"]⟩], [⟨4, "lonely", 1⟩]⟩ := by
  intro text edited
  obtain ⟨hedits, halike, -⟩ := spacing_is_not_read
  have hrespaced : Respaced text.toList edited.toList := (hedits _ _).mpr (by decide)
  refine ⟨hrespaced, ?_⟩
  rw [halike _ text edited hrespaced]
  decide

end Warden
