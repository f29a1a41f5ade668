/-
Which configured keys open the administrative interface.

# Two opinions of a key

Validation looks at the white space of a key and at nothing else: of a
valid configuration every other key that is not blank makes a valid one
(`validate_withKey_iff`). A request has to show the key in a header, and
headers ask more of it. A character that is no `Sendable` one cannot
stand in a header at all, and what a header says is read only if every
character is `Legible`. The two differ beyond ASCII, where a character
can be sent and is not read.

# From bytes to characters

Headers are judged byte by byte, and no test of headers tells one byte
from 128 on from another. So a test of bytes becomes one of characters
(`forall_mem_utf8_iff`), which below 128 leaves finitely many cases.
-/
import Warden.Proofs.Admin.Authentication
import Warden.Proofs.Config.Source
import Warden.Proofs.Text.Utf8

namespace Warden.Config

open Text

-- ============================================================= validation

/-- The configuration with another key. -/
def withKey (c : Config) (key : String) : Config :=
  { c with admin := { c.admin with apiKey := key } }

/-- A key is accepted if it is not blank. -/
theorem keyProblem_eq_nil_iff {key : String} : keyProblem key = [] ↔ trim key.toList ≠ [] := by
  unfold keyProblem
  split
  case isTrue h => simp [h]
  case isFalse h => simp [h]

/-- Where the interface is on, validation asks of a key not to be blank. -/
theorem validate_withKey_iff {c : Config} (hvalid : c.validate = .ok ())
    (henabled : c.admin.enabled = true) (key : String) :
    (c.withKey key).validate = .ok () ↔ trim key.toList ≠ [] := by
  rw [validate_eq_ok_iff] at hvalid ⊢
  rw [← keyProblem_eq_nil_iff]
  unfold problems at hvalid ⊢
  simp only [List.append_eq_nil_iff, if_pos henabled] at hvalid
  obtain ⟨⟨⟨⟨haddress, -⟩, hmetrics⟩, hdigest⟩, hwatch⟩ := hvalid
  have hon : (c.withKey key).admin.enabled = true := henabled
  simp only [List.append_eq_nil_iff, if_pos hon]
  constructor
  · rintro ⟨⟨⟨⟨-, hkey⟩, -⟩, -⟩, -⟩
    exact hkey
  · intro hkey
    exact ⟨⟨⟨⟨haddress, hkey⟩, hmetrics⟩, hdigest⟩, hwatch⟩

end Warden.Config

namespace Warden.Admin

open Text Request

-- ================================================================ headers

/-- A character that a header can hold. -/
def Sendable (c : Char) : Prop := c = '\t' ∨ (' ' ≤ c ∧ c ≠ '\x7F')

/-- A character that a header can hold and that is read from it. -/
def Legible (c : Char) : Prop := c = '\t' ∨ (' ' ≤ c ∧ c ≤ '~')

instance : DecidablePred Sendable := fun c =>
  inferInstanceAs (Decidable (c = '\t' ∨ (' ' ≤ c ∧ c ≠ '\x7F')))

instance : DecidablePred Legible := fun c =>
  inferInstanceAs (Decidable (c = '\t' ∨ (' ' ≤ c ∧ c ≤ '~')))

/-- A character beyond ASCII may stand in a header. -/
theorem sendable_of_high {c : Char} (hc : 128 ≤ c.toNat) : Sendable c := by
  refine .inr ⟨?_, ?_⟩
  · show (' ').toNat ≤ c.toNat
    have hblank : (' ').toNat = 32 := rfl
    omega
  · intro h
    have hdelete : ('\x7F').toNat = 127 := rfl
    rw [h] at hc
    omega

/-- A character beyond ASCII is not read from a header. -/
theorem not_legible_of_high {c : Char} (hc : 128 ≤ c.toNat) : ¬ Legible c := by
  rintro (rfl | ⟨-, h⟩)
  · have htab : ('\t').toNat = 9 := rfl
    omega
  · have hle : c.toNat ≤ ('~').toNat := h
    have htilde : ('~').toNat = 126 := rfl
    omega

/-- A text may stand in a header if each of its characters may. -/
theorem forall_inHeader_iff (text : String) :
    (∀ b ∈ utf8 text, inHeader b = true) ↔ ∀ c ∈ text.toList, Sendable c := by
  apply forall_mem_utf8_iff (v := True)
  · decide
  · intro b hb
    refine iff_true_intro ?_
    unfold inHeader
    simp only [Bool.or_eq_true, Bool.and_eq_true, decide_eq_true_eq, beq_iff_eq,
      UInt8.le_iff_toNat_le, Ne, ← UInt8.toNat_inj, UInt8.reduceToNat]
    omega
  · intro c hc
    exact iff_true_intro (sendable_of_high hc)

/-- It can be read from one if each of its characters can. -/
theorem forall_isVisible_iff (text : String) :
    (∀ b ∈ utf8 text, isVisible b = true) ↔ ∀ c ∈ text.toList, Legible c := by
  apply forall_mem_utf8_iff (v := False)
  · decide
  · intro b hb
    refine iff_false_intro ?_
    rw [Bool.not_eq_true, isVisible_eq_false_iff]
    simp only [UInt8.lt_iff_toNat_lt, Ne, ← UInt8.toNat_inj, UInt8.reduceToNat]
    omega
  · intro c hc
    exact iff_false_intro (not_legible_of_high hc)

/-- A key can be sent if each of its characters can. -/
theorem isSome_header?_iff (key : String) :
    (header? keyHeader (bearer ++ utf8 key)).isSome = true ↔ ∀ c ∈ key.toList, Sendable c := by
  have hname : isToken keyHeader = true := by decide
  have hbearer : bearer.all inHeader = true := by decide
  unfold header?
  rw [hname, List.all_append, hbearer, Bool.true_and, Bool.true_and, ← forall_inHeader_iff,
    ← List.all_eq_true]
  split
  case isTrue h => simp [h]
  case isFalse h => simp [h]

-- ==================================================================== keys

variable {key : String}

/-- With the right header, the key opens the interface if it is legible. -/
theorem code_answer_ne_iff {request : Request}
    (hfirst : request.FirstKeyHeader (bearer ++ utf8 key)) (files : FileSystem) (s : Service)
    (h : Host) :
    (answer files key s request h).value.1.code ≠ 401 ↔ ∀ c ∈ key.toList, Legible c := by
  rw [Ne, code_answer_eq_iff, Bool.not_eq_false, shows_iff, ← forall_isVisible_iff]
  exact and_iff_right hfirst

/-- A key that is not legible opens it for nobody. -/
theorem code_answer_of_not_legible (hnot : ∃ c ∈ key.toList, ¬ Legible c) (request : Request)
    (files : FileSystem) (s : Service) (h : Host) :
    (answer files key s request h).value.1.code = 401 := by
  rw [code_answer_eq_iff, Bool.eq_false_iff, Ne, shows_iff, forall_isVisible_iff]
  rintro ⟨-, hall⟩
  obtain ⟨c, hc, hillegible⟩ := hnot
  exact hillegible (hall c hc)

/-- Validation accepts any key that is not blank, but the interface opens
only to some of them. A header can show the key if each of its characters
is sendable. A request with that header is let in just when each is
legible, and where one is not, no request is let in whatever it shows. -/
theorem accepted_key_opens_iff_legible {c : Config} (hvalid : c.validate = .ok ())
    (henabled : c.admin.enabled = true) :
    (∀ key, (c.withKey key).validate = .ok () ↔ trim key.toList ≠ [])
      ∧ ((header? keyHeader (bearer ++ utf8 c.admin.apiKey)).isSome = true
          ↔ ∀ x ∈ c.admin.apiKey.toList, Sendable x)
      ∧ (∀ request : Request, request.FirstKeyHeader (bearer ++ utf8 c.admin.apiKey) →
          ∀ files s h, (answer files c.admin.apiKey s request h).value.1.code ≠ 401
            ↔ ∀ x ∈ c.admin.apiKey.toList, Legible x)
      ∧ ((∃ x ∈ c.admin.apiKey.toList, ¬ Legible x) → ∀ (request : Request) files s h,
          (answer files c.admin.apiKey s request h).value.1.code = 401) := by
  refine ⟨Config.validate_withKey_iff hvalid henabled, isSome_header?_iff _, ?_, ?_⟩
  · intro request hfirst files s h
    exact code_answer_ne_iff hfirst files s h
  · intro hnot request files s h
    exact code_answer_of_not_legible hnot request files s h

theorem accepted_key_opens_iff_legible_ascii :
    let c : Config := { admin := { apiKey := "a key" } }
    c.validate = .ok () ∧ c.admin.enabled = true ∧ (c.withKey "é").validate = .ok ()
      ∧ ∀ request : Request, request.FirstKeyHeader (utf8 "Bearer a key") →
          ∀ files s h, (answer files c.admin.apiKey s request h).value.1.code ≠ 401 := by
  intro c
  have hvalid : c.validate = .ok () := Config.validate_eq_ok_iff.mpr (by decide +kernel)
  have hbytes : utf8 "Bearer a key" = bearer ++ utf8 c.admin.apiKey := by decide
  have hall : c.admin.apiKey.toList.all (fun x => Legible x) = true := by decide
  have hlegible : ∀ x ∈ c.admin.apiKey.toList, Legible x := by
    simpa only [List.all_eq_true, decide_eq_true_eq] using hall
  obtain ⟨hkeys, -, hopens, -⟩ := accepted_key_opens_iff_legible hvalid rfl
  refine ⟨hvalid, rfl, (hkeys "é").mpr (by decide), ?_⟩
  intro request hfirst files s h
  rw [hbytes] at hfirst
  exact (hopens request hfirst files s h).mpr hlegible

/-- A key with a letter beyond ASCII is accepted and can be sent, and
nobody gets in with it. -/
theorem accepted_key_locks_out :
    let c : Config := { admin := { apiKey := "é" } }
    c.validate = .ok () ∧ c.admin.enabled = true
      ∧ ∃ request : Request,
          Request.make? "GET" "/admin/status" [("authorization", utf8 "Bearer é")] [] = some request
            ∧ request.FirstKeyHeader (bearer ++ utf8 c.admin.apiKey)
            ∧ ∀ files s h, (answer files c.admin.apiKey s request h).value.1.code = 401 := by
  intro c
  have hvalid : c.validate = .ok () := Config.validate_eq_ok_iff.mpr (by decide +kernel)
  have hbytes : utf8 "Bearer é" = bearer ++ utf8 c.admin.apiKey := by decide
  have hhidden : ∃ x ∈ c.admin.apiKey.toList, ¬ Legible x := ⟨'é', by decide, by decide⟩
  refine ⟨hvalid, rfl, ⟨"GET", "/admin/status", [⟨"authorization", utf8 "Bearer é"⟩], [], ""⟩,
    by decide +kernel, ⟨[], [], ?_, by simp⟩, ?_⟩
  · rw [← hbytes]
    rfl
  · intro files s h
    exact code_answer_of_not_legible hhidden _ files s h

end Warden.Admin
