/-
How a digest is written.

# Contents

Whatever the text, its digest is written in thirty-two lower case
hexadecimal digits (`length_hexDigest`, `isHexDigit_of_mem_hexDigest`).
None of these is a blank, a colon, a newline or the `u` of `null`, so the
written digest is one plain part of a line (`plain_hexDigest`) and is not
taken for a missing one (`not_null_isSuffix_hexDigest`).
-/
import Mathlib.Data.List.Basic
import Warden.Digest
import Warden.Record.Writer

namespace Warden

open Text

namespace Text

/-- The digits that a digest is written in. -/
def IsHexDigit (c : Char) : Prop := c ∈ "0123456789abcdef".toList

instance : DecidablePred IsHexDigit := fun _ => inferInstanceAs (Decidable (_ ∈ _))

variable {c : Char} {bytes : List UInt8}

theorem isHexDigit_hexDigit : ∀ n < 16, IsHexDigit (hexDigit n) := by decide

/-- A byte is written in hexadecimal digits. -/
theorem isHexDigit_of_mem_hexByte {b : UInt8} (h : c ∈ hexByte b) : IsHexDigit c := by
  have hbyte := b.toNat_lt
  rcases List.mem_pair.mp h with rfl | rfl
  · exact isHexDigit_hexDigit _ (by omega)
  · exact isHexDigit_hexDigit _ (by omega)

/-- A byte takes two digits. -/
theorem length_flatMap_hexByte : (bytes.flatMap hexByte).length = 2 * bytes.length := by
  induction bytes with
  | nil => rfl
  | cons b rest ih =>
      rw [List.flatMap_cons, List.length_append, ih, List.length_cons, Nat.mul_succ, Nat.add_comm]
      rfl

/-- A digit is not blank, and none of the signs that a line is read by. -/
theorem IsHexDigit.legible (h : IsHexDigit c) :
    isBlank c = false ∧ c ≠ ':' ∧ c ≠ '\n' ∧ c ≠ 'u' := by
  have hall : "0123456789abcdef".toList.all
      (fun c => isBlank c = false ∧ c ≠ ':' ∧ c ≠ '\n' ∧ c ≠ 'u') = true := by decide
  exact of_decide_eq_true (List.all_eq_true.mp hall c h)

end Text

namespace Algorithm

variable (algorithm : Algorithm) (input : String) {c : Char}

/-- Both algorithms give sixteen bytes. -/
theorem length_digest (message : List UInt8) : (algorithm.digest message).length = 16 := by
  cases algorithm with
  | md5 => exact Digest.Md5.length_digest message

/-- A digest is written in thirty-two digits. -/
theorem length_hexDigest : (algorithm.hexDigest input).length = 32 := by
  rw [hexDigest, String.length_ofList, length_flatMap_hexByte, length_digest]

variable {algorithm input}

theorem isHexDigit_of_mem_hexDigest (h : c ∈ (algorithm.hexDigest input).toList) :
    IsHexDigit c := by
  rw [hexDigest, String.toList_ofList] at h
  obtain ⟨b, -, hc⟩ := List.mem_flatMap.mp h
  exact isHexDigit_of_mem_hexByte hc

variable (algorithm input)

/-- A digest is not the empty text. -/
theorem hexDigest_ne_empty : algorithm.hexDigest input ≠ "" := by
  intro hempty
  have hlength := algorithm.length_hexDigest input
  rw [hempty] at hlength
  cases hlength

/-- A written digest is one part of a line, with no blank at its ends. -/
theorem plain_hexDigest : Layout.Plain (algorithm.hexDigest input).toList := by
  refine ⟨trim_eq_self ⟨fun c hc => ?_, fun c hc => ?_⟩, fun hmem => ?_⟩
  · exact (isHexDigit_of_mem_hexDigest (List.mem_of_head? hc)).legible.1
  · exact (isHexDigit_of_mem_hexDigest (List.mem_of_getLast? hc)).legible.1
  · exact (isHexDigit_of_mem_hexDigest hmem).legible.2.2.1 rfl

/-- A digest holds no colon. -/
theorem colon_notMem_hexDigest : ':' ∉ (algorithm.hexDigest input).toList :=
  fun hmem => (isHexDigit_of_mem_hexDigest hmem).legible.2.1 rfl

/-- It does not end in `null`, for it has no `u`. -/
theorem not_null_isSuffix_hexDigest :
    ¬ "null".toList <:+ (algorithm.hexDigest input).toList := by
  intro hsuffix
  have hmem : 'u' ∈ (algorithm.hexDigest input).toList := hsuffix.subset (by decide)
  exact (isHexDigit_of_mem_hexDigest hmem).legible.2.2.2 rfl

end Algorithm

end Warden
