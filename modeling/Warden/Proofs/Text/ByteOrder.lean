/-
Texts in the order of their bytes.

# Contents

Collections here are kept in the order of texts, which compares them
character by character, while what the program promises of its lists is
the order of their UTF-8 bytes. Both are one order: a smaller character
has smaller bytes at the first place where they differ
(`utf8EncodeChar_append_lt`), since the encoding writes the number of a
character in base 64 with the high digits first, and gives larger
numbers larger first bytes. So the bytes of a smaller text are smaller
(`utf8_lt_utf8`), and what is kept in order comes out in ascending byte
order, nothing twice (`byteAscending_keys`, `byteAscending_toList`).
-/
import Mathlib.Tactic.SplitIfs
import Std.Data.TreeMap.Lemmas
import Std.Data.TreeSet.Lemmas
import Warden.Text.Utf8

namespace Warden.Text

-- ============================================================ characters

/-- Bytes are compared as the numbers that they are. -/
theorem byte_cons_lt_iff {m n : Nat} (hm : m < 256) (hn : n < 256) (s t : List UInt8) :
    UInt8.ofNat m :: s < UInt8.ofNat n :: t ↔ m < n ∨ m = n ∧ s < t := by
  rw [List.cons_lt_cons_iff, UInt8.lt_iff_toNat_lt, ← UInt8.toNat_inj,
    UInt8.toNat_ofNat_of_lt' hm, UInt8.toNat_ofNat_of_lt' hn]

/-- A number in digits of six bits, of which no code point needs more than
four. -/
theorem eq_sum_digits (n : Nat) :
    n = 262144 * (n / 262144) + 4096 * (n / 4096 % 64) + 64 * (n / 64 % 64) + n % 64 := by
  omega

/-- Of two numbers in base 64 the smaller one has the smaller digit where
they first differ. -/
theorem digits_lt {m n : Nat} (h : m < n) :
    m / 262144 < n / 262144
      ∨ m / 262144 = n / 262144
        ∧ (m / 4096 % 64 < n / 4096 % 64
          ∨ m / 4096 % 64 = n / 4096 % 64
            ∧ (m / 64 % 64 < n / 64 % 64 ∨ m / 64 % 64 = n / 64 % 64 ∧ m % 64 < n % 64)) := by
  have hm := eq_sum_digits m
  have hn := eq_sum_digits n
  have hm₁ : m / 4096 % 64 < 64 := Nat.mod_lt _ (by decide)
  have hm₂ : m / 64 % 64 < 64 := Nat.mod_lt _ (by decide)
  have hm₃ : m % 64 < 64 := Nat.mod_lt _ (by decide)
  have hn₁ : n / 4096 % 64 < 64 := Nat.mod_lt _ (by decide)
  have hn₂ : n / 64 % 64 < 64 := Nat.mod_lt _ (by decide)
  have hn₃ : n % 64 < 64 := Nat.mod_lt _ (by decide)
  -- With a name for each digit this is linear.
  generalize m / 262144 = m₀, m / 4096 % 64 = m₁, m / 64 % 64 = m₂, m % 64 = m₃ at *
  generalize n / 262144 = n₀, n / 4096 % 64 = n₁, n / 64 % 64 = n₂, n % 64 = n₃ at *
  omega

/-- Code points are bounded. -/
theorem toNat_val_lt (c : Char) : c.val.toNat < 1114112 := by
  rcases c.valid with h | h
  · exact Nat.lt_trans h (by decide)
  · exact h.2

/-- The bytes of a smaller character are smaller, whatever follows. -/
theorem utf8EncodeChar_append_lt {c d : Char} (h : c < d) (s t : List UInt8) :
    String.utf8EncodeChar c ++ s < String.utf8EncodeChar d ++ t := by
  have hlt : c.val.toNat < d.val.toNat := h
  have hd : d.val.toNat < 1114112 := toNat_val_lt d
  unfold String.utf8EncodeChar
  generalize c.val.toNat = m at hlt ⊢
  generalize d.val.toNat = n at hlt hd ⊢
  have hdigits := digits_lt hlt
  dsimp only
  -- One case for each pair of lengths. Where they differ, the first bytes do.
  split_ifs
  all_goals
    simp (disch := omega) only [List.cons_append, List.nil_append, byte_cons_lt_iff,
      Nat.mod_eq_of_lt, Nat.add_lt_add_iff_right, Nat.add_right_cancel_iff]
    omega

-- ================================================================= texts

/-- Texts are ordered as their bytes. -/
theorem utf8_lt_utf8 {a b : String} (h : a < b) : utf8 a < utf8 b := by
  have hchars : a.toList < b.toList := h
  unfold utf8
  generalize a.toList = s at hchars ⊢
  generalize b.toList = t at hchars ⊢
  -- The induction is on where the two texts first differ.
  induction hchars with
  | nil =>
      obtain ⟨x, xs, hx⟩ := List.exists_cons_of_ne_nil String.utf8EncodeChar_ne_nil
      rw [List.flatMap_cons, hx]
      exact List.nil_lt_cons _ _
  | cons _ ih =>
      rw [List.flatMap_cons, List.flatMap_cons]
      exact List.append_left_lt ih
  | rel hc => exact utf8EncodeChar_append_lt hc _ _

theorem lt_of_compare_eq_lt {a b : String} (h : compare a b = .lt) : a < b :=
  compareOfLessAndEq_eq_lt.mp h

/-- In ascending order of their bytes, and so none of them twice. -/
def ByteAscending (l : List String) : Prop := l.Pairwise fun a b => utf8 a < utf8 b

/-- The keys of a table come in the order of their bytes. -/
theorem byteAscending_keys {α : Type} (m : Std.TreeMap String α) : ByteAscending m.keys :=
  Std.TreeMap.ordered_keys.imp fun h => utf8_lt_utf8 (lt_of_compare_eq_lt h)

/-- The elements of a set come in the order of their bytes. -/
theorem byteAscending_toList (s : Std.TreeSet String) : ByteAscending s.toList :=
  Std.TreeSet.ordered_toList.imp fun h => utf8_lt_utf8 (lt_of_compare_eq_lt h)

end Warden.Text
