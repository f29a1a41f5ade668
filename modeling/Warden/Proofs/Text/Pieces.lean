/-
What cutting a text into pieces keeps, and what it loses.

# Contents

Pieces are counted by the separators alone, so two texts joined by a
separator have the pieces of both (`pieces_append_cons`), and the first
piece is what stands before the first separator (`pieces_eq_cons`).
Lines are pieces that a newline ends instead of separating
(`pieces_newline`); a text that ends with a newline can be continued
without touching its lines (`lines_append`).

Tokens lose the blank pieces, and with them the place that a token had.
Blanks at the ends of a text are lost as well (`tokens_trim`), and so is
everything up to the first character that is neither blank nor a
separator: what stands there begins the first token (`head?_tokens`).

# Repetitions

Dropping repetitions is a loop over what was kept so far. `foldl_kept`
says what it does from any such start, and by it a list may be taken
apart at its head (`firsts_cons`) or anywhere (`firsts_append`).
-/
import Warden.Text.Pieces

namespace Warden.Text

variable (d : Char)

-- ================================================================ pieces

/-- What is left of a text without the separators and blanks that it
begins with. -/
def dropLeading (s : List Char) : List Char := s.dropWhile fun c => c == d || isBlank c

/-- What stands before the first separator of a text. -/
def beforeFirst (s : List Char) : List Char := s.takeWhile (· ≠ d)

theorem pieces_cons_self (s : List Char) : pieces d (d :: s) = [] :: pieces d s := by
  simp [pieces]

/-- A character that is no separator belongs to the first piece. -/
theorem pieces_cons_of_ne {c : Char} (hc : c ≠ d) {s p : List Char} {ps : List (List Char)}
    (hs : pieces d s = p :: ps) : pieces d (c :: s) = (c :: p) :: ps := by
  simp [pieces, hc, hs]

/-- The pieces of two texts with a delimiter in between are those of the one
and then those of the other. -/
theorem pieces_append_cons (s t : List Char) :
    pieces d (s ++ d :: t) = pieces d s ++ pieces d t := by
  induction s with
  | nil => exact pieces_cons_self d t
  | cons c r ih =>
      by_cases hc : c = d
      · subst hc
        rw [List.cons_append, pieces_cons_self, pieces_cons_self, ih, List.cons_append]
      · obtain ⟨p, ps, hp⟩ := List.exists_cons_of_ne_nil (pieces_ne_nil d r)
        rw [hp, List.cons_append] at ih
        rw [List.cons_append, pieces_cons_of_ne d hc ih, pieces_cons_of_ne d hc hp,
          List.cons_append]

/-- A text without the delimiter is its only piece. -/
theorem pieces_of_notMem {s : List Char} (hs : d ∉ s) : pieces d s = [s] := by
  induction s with
  | nil => rfl
  | cons c r ih =>
      obtain ⟨hc, hr⟩ := List.ne_and_not_mem_of_not_mem_cons hs
      exact pieces_cons_of_ne d (Ne.symm hc) (ih hr)

/-- The first piece is what stands before the first delimiter. -/
theorem pieces_eq_cons (s : List Char) :
    ∃ ps, pieces d s = beforeFirst d s :: ps := by
  induction s with
  | nil => exact ⟨[], rfl⟩
  | cons c r ih =>
      by_cases hc : c = d
      · subst hc
        exact ⟨pieces c r, by simp [pieces_cons_self, beforeFirst]⟩
      · obtain ⟨ps, hp⟩ := ih
        exact ⟨ps, by simp [pieces_cons_of_ne d hc hp, beforeFirst, hc]⟩

/-- The characters of a piece are characters of the text, and none of them
is a separator. -/
theorem forall_mem_pieces {s p : List Char} (hp : p ∈ pieces d s) : ∀ c ∈ p, c ∈ s ∧ c ≠ d := by
  induction s generalizing p with
  | nil => simp_all [pieces]
  | cons x r ih =>
      by_cases hx : x = d
      · subst hx
        rw [pieces_cons_self] at hp
        rcases List.mem_cons.mp hp with rfl | hr
        · exact fun c hc => absurd hc List.not_mem_nil
        · exact fun c hc => (ih hr c hc).imp_left (List.mem_cons_of_mem x)
      · obtain ⟨q, qs, hq⟩ := List.exists_cons_of_ne_nil (pieces_ne_nil d r)
        rw [hq] at ih
        rw [pieces_cons_of_ne d hx hq] at hp
        rcases List.mem_cons.mp hp with rfl | hr
        · intro c hc
          rcases List.mem_cons.mp hc with rfl | hcq
          · exact ⟨List.mem_cons_self, hx⟩
          · exact (ih List.mem_cons_self c hcq).imp_left (List.mem_cons_of_mem x)
        · exact fun c hc =>
            (ih (List.mem_cons_of_mem q hr) c hc).imp_left (List.mem_cons_of_mem x)

/-- No piece holds the delimiter. -/
theorem notMem_of_mem_pieces {s p : List Char} (hp : p ∈ pieces d s) : d ∉ p :=
  fun hd => (forall_mem_pieces d hp d hd).2 rfl

/-- A piece holds no character that the text does not hold. -/
theorem notMem_piece {c : Char} {s p : List Char} (hc : c ∉ s) (hp : p ∈ pieces d s) : c ∉ p :=
  fun h => hc (forall_mem_pieces d hp c h).1

/-- A character that is no separator, put at the end, belongs to the last
piece. -/
theorem pieces_concat_of_ne {c : Char} (hc : c ≠ d) (s : List Char) :
    ∃ ps p, pieces d s = ps ++ [p] ∧ pieces d (s ++ [c]) = ps ++ [p ++ [c]] := by
  induction s with
  | nil => exact ⟨[], [], rfl, pieces_cons_of_ne d hc rfl⟩
  | cons x r ih =>
      obtain ⟨ps, p, hr, hrc⟩ := ih
      by_cases hx : x = d
      · subst hx
        refine ⟨[] :: ps, p, ?_, ?_⟩
        · rw [pieces_cons_self, hr, List.cons_append]
        · rw [List.cons_append, pieces_cons_self, hrc, List.cons_append]
      · cases ps with
        | nil => exact ⟨[], x :: p, pieces_cons_of_ne d hx hr, pieces_cons_of_ne d hx hrc⟩
        | cons q qs => exact ⟨(x :: q) :: qs, p, pieces_cons_of_ne d hx hr, pieces_cons_of_ne d hx hrc⟩

/-- Pieces are what the library splits a list into. -/
theorem pieces_eq_splitOn (s : List Char) : pieces d s = s.splitOn d := by
  induction s with
  | nil => rfl
  | cons c r ih =>
      obtain ⟨p, ps, hp⟩ := List.exists_cons_of_ne_nil (pieces_ne_nil d r)
      rw [List.splitOn_cons_eq_if_modifyHead, ← ih, hp]
      by_cases hc : c = d
      · simp [hc, pieces_cons_self, hp]
      · simp [hc, pieces_cons_of_ne d hc hp]

/-- Parts that are joined by a separator, and have none in them, are the
pieces of what they are joined to. -/
theorem pieces_intercalate {parts : List (List Char)} (hne : parts ≠ [])
    (hparts : ∀ p ∈ parts, d ∉ p) : pieces d (List.intercalate [d] parts) = parts := by
  rw [pieces_eq_splitOn]
  exact List.splitOn_intercalate d hparts hne

-- ============================================================== trimming

/-- A text is what is left of it, between the blanks at its ends. -/
theorem exists_eq_append_trim (s : List Char) :
    ∃ before after, s = before ++ trim s ++ after
      ∧ (∀ c ∈ before, isBlank c = true) ∧ ∀ c ∈ after, isBlank c = true := by
  refine ⟨s.takeWhile isBlank, ((trimStart s).reverse.takeWhile isBlank).reverse, ?_, ?_, ?_⟩
  · have hend : trimEnd (trimStart s) ++ ((trimStart s).reverse.takeWhile isBlank).reverse
        = trimStart s := by
      rw [trimEnd, ← List.reverse_append]
      exact List.reverse_eq_iff.mpr List.takeWhile_append_dropWhile
    rw [trim, List.append_assoc, hend]
    exact List.takeWhile_append_dropWhile.symm
  · intro c hc
    exact List.all_eq_true.mp List.all_takeWhile c hc
  · intro c hc
    exact List.all_eq_true.mp List.all_takeWhile c (List.mem_reverse.mp hc)

/-- A blank in front is trimmed off. -/
theorem trim_cons_of_isBlank {c : Char} (hc : isBlank c = true) (s : List Char) :
    trim (c :: s) = trim s := by
  simp [trim, trimStart, hc]

/-- A blank at the end is trimmed off. -/
theorem trim_concat_of_isBlank {c : Char} (hc : isBlank c = true) (s : List Char) :
    trim (s ++ [c]) = trim s := by
  unfold trim
  rw [trimStart, List.dropWhile_append]
  split
  case isTrue hempty =>
    have hs : s.dropWhile isBlank = [] := List.isEmpty_iff.mp hempty
    simp [hs, trimEnd, trimStart, hc]
  case isFalse => simp [trimEnd, trimStart, hc]

/-- What holds a character that is no blank is not trimmed away. -/
theorem trim_ne_nil {s : List Char} {c : Char} (hmem : c ∈ s) (hc : isBlank c = false) :
    trim s ≠ [] := by
  intro hnil
  obtain ⟨before, after, hs, hbefore, hafter⟩ := exists_eq_append_trim s
  rw [hnil, List.append_nil] at hs
  rw [hs] at hmem
  rcases List.mem_append.mp hmem with h | h
  · simp [hbefore c h] at hc
  · simp [hafter c h] at hc

/-- Trimming brings in no character. -/
theorem notMem_trim {c : Char} {s : List Char} (h : c ∉ s) : c ∉ trim s := by
  obtain ⟨before, after, hs, -, -⟩ := exists_eq_append_trim s
  intro hmem
  rw [hs] at h
  exact h (List.mem_append_left _ (List.mem_append_right _ hmem))

-- ================================================================ tokens

/-- A token is a piece that is not blank, without the blanks at its ends. -/
theorem mem_tokens {s t : List Char} : t ∈ tokens d s ↔ t ≠ [] ∧ ∃ p ∈ pieces d s, trim p = t := by
  simp [tokens, and_comm]

/-- No token holds the delimiter. -/
theorem notMem_of_mem_tokens {s t : List Char} (ht : t ∈ tokens d s) : d ∉ t := by
  obtain ⟨-, p, hp, rfl⟩ := (mem_tokens d).mp ht
  exact notMem_trim (notMem_of_mem_pieces d hp)

/-- Tokens do not reach over a delimiter. -/
theorem tokens_append_cons (s t : List Char) :
    tokens d (s ++ d :: t) = tokens d s ++ tokens d t := by
  simp [tokens, pieces_append_cons]

theorem tokens_nil : tokens d [] = [] := rfl

theorem tokens_cons_self (s : List Char) : tokens d (d :: s) = tokens d s :=
  tokens_append_cons d [] s

theorem tokens_cons_of_isBlank {c : Char} (hc : isBlank c = true) (s : List Char) :
    tokens d (c :: s) = tokens d s := by
  by_cases hd : c = d
  · subst hd
    exact tokens_cons_self c s
  · obtain ⟨p, ps, hp⟩ := List.exists_cons_of_ne_nil (pieces_ne_nil d s)
    simp [tokens, pieces_cons_of_ne d hd hp, hp, trim_cons_of_isBlank hc]

theorem tokens_concat_of_isBlank {c : Char} (hc : isBlank c = true) (s : List Char) :
    tokens d (s ++ [c]) = tokens d s := by
  by_cases hd : c = d
  · subst hd
    rw [tokens_append_cons, tokens_nil, List.append_nil]
  · obtain ⟨ps, p, hs, hsc⟩ := pieces_concat_of_ne d hd s
    simp [tokens, hs, hsc, trim_concat_of_isBlank hc]

/-- Blanks in front of a text change none of its tokens. -/
theorem tokens_append_left {b : List Char} (hb : ∀ c ∈ b, isBlank c = true) (s : List Char) :
    tokens d (b ++ s) = tokens d s := by
  induction b with
  | nil => rfl
  | cons c r ih =>
      rw [List.cons_append, tokens_cons_of_isBlank d (hb c List.mem_cons_self),
        ih fun x hx => hb x (List.mem_cons_of_mem c hx)]

/-- Blanks after a text change none of its tokens. -/
theorem tokens_append_right {b : List Char} (hb : ∀ c ∈ b, isBlank c = true) (s : List Char) :
    tokens d (s ++ b) = tokens d s := by
  induction b generalizing s with
  | nil => rw [List.append_nil]
  | cons c r ih =>
      rw [List.append_cons, ih (fun x hx => hb x (List.mem_cons_of_mem c hx)),
        tokens_concat_of_isBlank d (hb c List.mem_cons_self)]

/-- Blanks at the ends of a text are in no token, also where the
separator is a blank itself. -/
theorem tokens_trim (s : List Char) : tokens d (trim s) = tokens d s := by
  obtain ⟨before, after, hs, hbefore, hafter⟩ := exists_eq_append_trim s
  calc tokens d (trim s)
      = tokens d (before ++ trim s) := (tokens_append_left d hbefore _).symm
    _ = tokens d (before ++ trim s ++ after) := (tokens_append_right d hafter _).symm
    _ = tokens d s := by rw [← hs]

/-- The first token begins with the first character that is neither blank
nor a separator: whatever stands before it does not count. -/
theorem head?_tokens {s t : List Char} (ht : (tokens d s).head? = some t) :
    t = trim (beforeFirst d (dropLeading d s)) := by
  -- Leading characters are dropped one by one, with no effect on the tokens.
  induction s with
  | nil => simp [tokens_nil] at ht
  | cons c r ih =>
      cases hskip : c == d || isBlank c with
      | true =>
          have hrest : tokens d (c :: r) = tokens d r := by
            rcases Bool.or_eq_true_iff.mp hskip with hd | hb
            · rw [beq_iff_eq.mp hd, tokens_cons_self]
            · exact tokens_cons_of_isBlank d hb r
          have hdrop : dropLeading d (c :: r) = dropLeading d r := by
            simp only [dropLeading, List.dropWhile_cons, hskip, if_true]
          rw [hdrop]
          exact ih (hrest ▸ ht)
      | false =>
          obtain ⟨hd, hb⟩ : c ≠ d ∧ isBlank c = false := by simpa using hskip
          obtain ⟨ps, hps⟩ := pieces_eq_cons d (c :: r)
          have hkeep : dropLeading d (c :: r) = c :: r := by
            simp [dropLeading, hd, hb]
          have hne : trim (beforeFirst d (c :: r)) ≠ [] :=
            trim_ne_nil (c := c) (by simp [beforeFirst, hd]) hb
          have htokens : (tokens d (c :: r)).head? = some (trim (beforeFirst d (c :: r))) := by
            simp [tokens, hps, hne]
          rw [hkeep, ← Option.some_inj, ← ht, htokens]

/-- No token is left where nothing stands but blanks and separators. -/
theorem tokens_eq_nil_iff {s : List Char} :
    tokens d s = [] ↔ ∀ c ∈ s, c = d ∨ isBlank c = true := by
  induction s with
  | nil => simp [tokens_nil]
  | cons c r ih =>
      rw [List.forall_mem_cons, ← ih]
      by_cases hd : c = d
      · subst hd
        rw [tokens_cons_self]
        simp
      · cases hb : isBlank c with
        | true =>
            rw [tokens_cons_of_isBlank d hb]
            simp
        | false =>
            -- The character stays in the first piece, which is no blank then.
            obtain ⟨p, ps, hp⟩ := List.exists_cons_of_ne_nil (pieces_ne_nil d r)
            have hmem : trim (c :: p) ∈ tokens d (c :: r) := by
              refine (mem_tokens d).mpr ⟨trim_ne_nil List.mem_cons_self hb, c :: p, ?_, rfl⟩
              rw [pieces_cons_of_ne d hd hp]
              exact List.mem_cons_self
            constructor
            · intro hnil
              rw [hnil] at hmem
              exact absurd hmem List.not_mem_nil
            · rintro ⟨hc | hc, -⟩
              · exact absurd hc hd
              · exact absurd hc Bool.false_ne_true

/-- A text that begins with neither is left as it is. -/
theorem dropLeading_eq_self {s : List Char} (hd : s.head? ≠ some d)
    (hb : ∀ c, s.head? = some c → isBlank c = false) : dropLeading d s = s := by
  cases s with
  | nil => rfl
  | cons c r =>
      have hne : c ≠ d := fun h => hd (by rw [h, List.head?_cons])
      simp [dropLeading, hne, hb c rfl]

-- ================================================================= lines

/-- A newline ends the last of the lines before it. -/
theorem lines_append_cons (s t : List Char) :
    lines (s ++ '\n' :: t) = pieces '\n' s ++ lines t := by
  induction s with
  | nil => simp [lines, pieces]
  | cons c r ih =>
      by_cases hc : c = '\n'
      · subst hc
        simp [lines, pieces_cons_self, ih]
      · obtain ⟨p, ps, hp⟩ := List.exists_cons_of_ne_nil (pieces_ne_nil '\n' r)
        simp [lines, hc, ih, hp, pieces_cons_of_ne '\n' hc hp]

/-- Lines are the pieces between newlines, but for an empty piece that the
last newline leaves. -/
theorem pieces_newline (s : List Char) :
    pieces '\n' s = lines s ∨ pieces '\n' s = lines s ++ [[]] := by
  induction s with
  | nil => exact .inr rfl
  | cons c r ih =>
      by_cases hc : c = '\n'
      · subst hc
        rw [pieces_cons_self, lines, if_pos rfl]
        exact ih.imp (congrArg _) (congrArg _)
      · rw [lines, if_neg hc]
        cases hr : lines r with
        | nil =>
            -- Nothing follows, so the character is the whole last line.
            have hlast : pieces '\n' r = [[]] := by
              rw [hr] at ih
              exact ih.resolve_left (pieces_ne_nil '\n' r)
            exact .inl (pieces_cons_of_ne '\n' hc hlast)
        | cons l ls =>
            rw [hr] at ih
            exact ih.imp (pieces_cons_of_ne '\n' hc) (pieces_cons_of_ne '\n' hc)

/-- No line holds a newline. -/
theorem newline_notMem_of_mem_lines {s l : List Char} (hl : l ∈ lines s) : '\n' ∉ l := by
  apply notMem_of_mem_pieces '\n' (s := s)
  rcases pieces_newline s with h | h
  · exact h ▸ hl
  · exact h ▸ List.mem_append_left _ hl

/-- The last line of a text is ended, if there is one. -/
def Ended (s : List Char) : Prop := s = [] ∨ s.getLast? = some '\n'

/-- Where the text so far has ended its last line, what follows begins a new
one. -/
theorem lines_append {s : List Char} (hs : Ended s) (t : List Char) :
    lines (s ++ t) = lines s ++ lines t := by
  rcases hs with rfl | hlast
  · rfl
  · obtain ⟨r, rfl⟩ : ∃ r, s = r ++ ['\n'] := List.getLast?_eq_some_iff.mp hlast
    rw [List.append_assoc, List.singleton_append, lines_append_cons, lines_append_cons]
    simp [lines]

-- ====================================================== first occurrences

section Firsts

variable {α : Type} [BEq α] [LawfulBEq α]

/-- Going on after some members were kept passes over those of them that
come again, and does not touch what was kept. -/
theorem foldl_kept (l kept : List α) :
    l.foldl (fun kept a => if kept.contains a then kept else kept ++ [a]) kept
      = kept ++ (firsts l).filter fun a => !kept.contains a := by
  induction l generalizing kept with
  | nil => simp [firsts]
  | cons b r ih =>
      have hfirst : firsts (b :: r) = b :: (firsts r).filter fun a => !a == b := by
        simpa [firsts] using ih [b]
      rw [List.foldl_cons, ih, hfirst]
      cases hb : kept.contains b with
      | true =>
          have hsame : ∀ a ∈ firsts r, (!kept.contains a) = (!kept.contains a && !a == b) := by
            grind
          rw [if_pos rfl, List.filter_cons_of_neg (by rw [hb]; decide), List.filter_filter,
            List.filter_congr hsame]
      | false =>
          have hsame : ∀ a ∈ firsts r,
              (!(kept ++ [b]).contains a) = (!kept.contains a && !a == b) := by
            grind
          rw [if_neg Bool.false_ne_true, List.filter_cons_of_pos (by rw [hb]; rfl),
            List.filter_filter, List.filter_congr hsame, List.append_assoc, List.singleton_append]

/-- The first element stays, and is taken out of what follows it. -/
theorem firsts_cons (a : α) (l : List α) :
    firsts (a :: l) = a :: (firsts l).filter fun b => !b == a := by
  simpa [firsts] using foldl_kept l [a]

/-- Of two lists put together the second adds what the first has not. -/
theorem firsts_append (l m : List α) :
    firsts (l ++ m) = firsts l ++ (firsts m).filter fun a => !(firsts l).contains a := by
  rw [firsts, List.foldl_append]
  exact foldl_kept m (firsts l)

/-- Dropping repetitions drops no member. -/
theorem mem_firsts {l : List α} {a : α} : a ∈ firsts l ↔ a ∈ l := by
  induction l with
  | nil => rfl
  | cons b r ih =>
      rw [firsts_cons, List.mem_cons, List.mem_cons, List.mem_filter, ih]
      by_cases hab : a = b <;> simp [hab]

/-- Nothing comes twice among the first occurrences. -/
theorem nodup_firsts (l : List α) : (firsts l).Nodup := by
  induction l with
  | nil => exact List.nodup_nil
  | cons a r ih =>
      rw [firsts_cons]
      exact List.nodup_cons.mpr ⟨by simp, ih.filter _⟩

/-- Where nothing is repeated, nothing is dropped. -/
theorem firsts_of_nodup {l : List α} (hl : l.Nodup) : firsts l = l := by
  induction l with
  | nil => rfl
  | cons a r ih =>
      obtain ⟨hnotMem, hr⟩ := List.nodup_cons.mp hl
      rw [firsts_cons, ih hr, List.filter_eq_self.mpr]
      intro b hb
      simpa using fun h : b = a => hnotMem (h ▸ hb)

end Firsts

/-- The values of a field are its tokens between commas. -/
theorem mem_values {s v : List Char} : v ∈ values s ↔ v ∈ tokens ',' s := mem_firsts

end Warden.Text
