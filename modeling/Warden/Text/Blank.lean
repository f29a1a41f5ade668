/-
White space: which characters are blank, and texts without blank ends.

# Contents

`isBlank` is the Unicode property White_Space, `trim` takes blanks off
both ends of a text, and `Trimmed` says of a text that there are none
to take off. Main statements: a trimmed text is left as it is
(`trim_eq_self`), and what `trim` returns is trimmed (`trimmed_trim`).
-/

namespace Warden.Text

/-- The Unicode property White_Space. -/
def isBlank (c : Char) : Bool :=
  let n := c.toNat
  (9 ≤ n && n ≤ 13) || n == 0x20 || n == 0x85 || n == 0xA0 || n == 0x1680
    || (0x2000 ≤ n && n ≤ 0x200A) || n == 0x2028 || n == 0x2029
    || n == 0x202F || n == 0x205F || n == 0x3000

/-- Drops blanks at the start. -/
def trimStart (s : List Char) : List Char := s.dropWhile isBlank

/-- Drops blanks at the end. -/
def trimEnd (s : List Char) : List Char := (trimStart s.reverse).reverse

/-- Drops blanks at both ends. -/
def trim (s : List Char) : List Char := trimEnd (trimStart s)

/-- Neither end is blank. -/
def Trimmed (s : List Char) : Prop :=
  (∀ c, s.head? = some c → isBlank c = false) ∧ (∀ c, s.getLast? = some c → isBlank c = false)

-- ================================================= trimming at one end

/-- Without a blank in front, nothing is trimmed there. -/
theorem trimStart_eq_self {s : List Char} (h : ∀ c, s.head? = some c → isBlank c = false) :
    trimStart s = s := by
  cases s with
  | nil => rfl
  | cons c r => simp [trimStart, h c rfl]

theorem head?_trimStart (s : List Char) :
    ∀ c, (trimStart s).head? = some c → isBlank c = false := by
  induction s with
  | nil => simp [trimStart]
  | cons c r ih =>
    intro d hd
    by_cases hc : isBlank c = true
    · simp only [trimStart, List.dropWhile_cons, hc, if_true] at hd
      exact ih d hd
    · simp only [trimStart, List.dropWhile_cons, hc] at hd
      simp at hd
      simpa [hd] using hc

theorem getLast?_trimEnd (s : List Char) :
    ∀ c, (trimEnd s).getLast? = some c → isBlank c = false := by
  intro c hc
  rw [trimEnd, List.getLast?_reverse] at hc
  exact head?_trimStart _ c hc

/-- Without a blank at the end, nothing is trimmed there. -/
theorem trimEnd_eq_self {s : List Char} (h : ∀ c, s.getLast? = some c → isBlank c = false) :
    trimEnd s = s := by
  rw [trimEnd, trimStart_eq_self, List.reverse_reverse]
  intro c hc
  exact h c (by rwa [List.head?_reverse] at hc)

theorem trimEnd_isPrefix (s : List Char) : trimEnd s <+: s := by
  rw [trimEnd, ← List.reverse_suffix, List.reverse_reverse]
  exact List.dropWhile_suffix _

-- ============================================================ both ends

/-- A trimmed text stays as it is. -/
theorem trim_eq_self {s : List Char} (h : Trimmed s) : trim s = s := by
  rw [trim, trimStart_eq_self h.1, trimEnd_eq_self h.2]

/-- What is left after trimming is trimmed. -/
theorem trimmed_trim (s : List Char) : Trimmed (trim s) := by
  refine ⟨fun c hc => ?_, getLast?_trimEnd _⟩
  have hp := trimEnd_isPrefix (trimStart s)
  obtain ⟨t, ht⟩ := hp
  have : (trimStart s).head? = some c := by
    rw [← ht, List.head?_append]
    simp only [trim] at hc
    simp [hc]
  exact head?_trimStart s c this

end Warden.Text
