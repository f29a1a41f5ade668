/-
Characters and their bytes.

# Contents

Below 128 a character is the one byte of its number
(`utf8EncodeChar_of_ascii`), and what holds of all of them can be looked
up (`of_ascii`). From 128 on it is some bytes that are all that high
(`high_of_mem_utf8EncodeChar`). So a test of bytes that gives one answer
for all high ones is a test of characters (`forall_mem_utf8_iff`).
-/
import Mathlib.Tactic.SplitIfs
import Warden.Text.Utf8

namespace Warden.Text

-- ========================================================= low characters

theorem ascii_char : ∀ n < 128, (Char.ofNat n).toNat = n
    ∧ String.utf8EncodeChar (Char.ofNat n) = [UInt8.ofNat n] := by
  decide

/-- The characters below 128 are those of the numbers below 128. -/
@[elab_as_elim] theorem of_ascii {p : Char → Prop} {c : Char} (hc : c.toNat < 128)
    (h : ∀ n < 128, p (Char.ofNat n)) : p c := by
  have hself := h c.toNat hc
  rwa [Char.ofNat_toNat] at hself

/-- An ASCII character is one byte. -/
theorem utf8EncodeChar_of_ascii {c : Char} (hc : c.toNat < 128) :
    String.utf8EncodeChar c = [UInt8.ofNat c.toNat] := by
  have hbyte := (ascii_char c.toNat hc).2
  rwa [Char.ofNat_toNat] at hbyte

-- ======================================================== high characters

/-- Any other character is bytes beyond ASCII alone. -/
theorem high_of_mem_utf8EncodeChar {c : Char} (hc : 128 ≤ c.toNat) :
    ∀ b ∈ String.utf8EncodeChar c, 128 ≤ b.toNat := by
  have hbyte : ∀ n, 128 ≤ n % 256 → 128 ≤ (UInt8.ofNat n).toNat := by
    intro n hn
    rw [UInt8.toNat_ofNat']
    omega
  have hval : 128 ≤ c.val.toNat := hc
  unfold String.utf8EncodeChar
  generalize c.val.toNat = n at hval
  dsimp only
  -- To each byte, but for that of an ASCII character, a mark of the high bit is added.
  split_ifs
  all_goals
    simp only [List.forall_mem_cons, List.not_mem_nil, false_implies, implies_true, and_true]
  · omega
  · exact ⟨hbyte _ (by omega), hbyte _ (by omega)⟩
  · exact ⟨hbyte _ (by omega), hbyte _ (by omega), hbyte _ (by omega)⟩
  · exact ⟨hbyte _ (by omega), hbyte _ (by omega), hbyte _ (by omega), hbyte _ (by omega)⟩

-- ============================================================ whole texts

/-- Texts are encoded one after the other. -/
theorem utf8_append (s t : String) : utf8 (s ++ t) = utf8 s ++ utf8 t := by
  simp [utf8]

section Bytes

variable {p : UInt8 → Bool} {q : Char → Prop} {v : Prop}
  (hlow : ∀ n < 128, p (UInt8.ofNat n) = true ↔ q (Char.ofNat n))
  (hbytes : ∀ b : UInt8, 128 ≤ b.toNat → (p b = true ↔ v))
  (hchars : ∀ c : Char, 128 ≤ c.toNat → (q c ↔ v))
include hlow hbytes hchars

theorem forall_mem_utf8EncodeChar_iff (c : Char) :
    (∀ b ∈ String.utf8EncodeChar c, p b = true) ↔ q c := by
  by_cases hc : c.toNat < 128
  case pos =>
    have hself := hlow c.toNat hc
    rw [Char.ofNat_toNat] at hself
    rw [utf8EncodeChar_of_ascii hc, List.forall_mem_singleton]
    exact hself
  case neg =>
    have hhigh : 128 ≤ c.toNat := by omega
    have hmem := high_of_mem_utf8EncodeChar hhigh
    rw [hchars c hhigh]
    constructor
    · intro h
      obtain ⟨b, rest, hb⟩ := List.exists_cons_of_ne_nil (@String.utf8EncodeChar_ne_nil c)
      have hfirst : b ∈ String.utf8EncodeChar c := hb ▸ List.mem_cons_self
      exact (hbytes b (hmem b hfirst)).mp (h b hfirst)
    · intro hv b hb
      exact (hbytes b (hmem b hb)).mpr hv

/-- A test of bytes and one of characters that agree below 128, and that
give one answer above, agree on texts. -/
theorem forall_mem_utf8_iff (text : String) :
    (∀ b ∈ utf8 text, p b = true) ↔ ∀ c ∈ text.toList, q c := by
  unfold utf8
  simp only [List.mem_flatMap, forall_exists_index, and_imp]
  constructor
  · intro h c hc
    exact (forall_mem_utf8EncodeChar_iff hlow hbytes hchars c).mp fun b hb => h b c hc hb
  · intro h b c hc hb
    exact (forall_mem_utf8EncodeChar_iff hlow hbytes hchars c).mpr (h c hc) b hb

end Bytes

end Warden.Text
