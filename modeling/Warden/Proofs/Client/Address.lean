/-
What an address makes of a name that is written in it.

# Contents

The client writes a name behind a path without encoding it. The address
keeps a part of what is written (`kept`), and the other side decodes what
was encoded on the way: `TakenFor` says which name comes out of it. What
is kept stays the last part of the path (`requested_part`).

`Carried` is that a name has nothing to which the address gives a meaning
of its own. Such a name is kept as it is and taken for itself
(`Carried.takenFor`).

An encoder for whole texts would encode the percent sign. This one leaves
it, so a sign with two digits in the name would be read as a byte. That
there is none in the name has to be carried over to the encoding: a digit
after a percent sign stands for itself, since whatever is encoded begins
with a percent sign again (`encoded_eq_cons`).
-/
import Mathlib.Data.Bool.AllAny
import Mathlib.Data.List.DropRight
import Mathlib.Data.List.TakeWhile
import Warden.Client.Address
import Warden.Proofs.Admin.Routing
import Warden.Proofs.Text.Utf8

namespace Warden.Client

open Text Admin

/-- A name in which an address sees nothing but a name. -/
structure Carried (name : String) : Prop where
  ne_empty : name ≠ ""
  /-- Nothing ends the path or the part, and nothing is dropped. -/
  inPart : ∀ c ∈ name.toList, endsPath c = false ∧ isDropped c = false ∧ c ≠ '/' ∧ c ≠ '\\'
  last : ∀ c, name.toList.getLast? = some c → isControlOrBlank c = false
  dot : name ≠ "."
  dots : name ≠ ".."
  /-- No percent sign stands before two digits. -/
  escape : ∀ before high low rest,
    name.toList = before ++ '%' :: high :: low :: rest → byteOfHex? high low = none

-- ================================================================ one part

/-- As the encoder of the client, but also the percent sign and the slash
are encoded. -/
def isPlainLetter (b : UInt8) : Bool := isPlainByte b && b != '%'.toUInt8 && b != '/'.toUInt8

/-- Letters keep to one part of a path and are decoded as themselves. -/
theorem keepsParts_isPlainLetter : KeepsParts isPlainLetter := by
  intro b hb
  simp only [isPlainLetter, isPlainByte, Bool.and_eq_true, decide_eq_true_eq, bne_iff_ne] at hb
  obtain ⟨⟨⟨⟨-, hascii⟩, -⟩, hpercent⟩, hslash⟩ := hb
  have hbound : b.toNat ≤ 0x7E := UInt8.le_iff_toNat_le.mp hascii
  refine ⟨by omega, fun heq => hpercent ?_, fun heq => hslash ?_⟩
  · exact UInt8.toNat_inj.mp heq
  · exact UInt8.toNat_inj.mp heq

/-- A byte beyond ASCII is always encoded. -/
theorem isPlainByte_of_high {b : UInt8} (hb : 128 ≤ b.toNat) : isPlainByte b = false := by
  have hlarge : ¬ b ≤ 0x7E := fun hle => by
    have hbound : b.toNat ≤ 0x7E := UInt8.le_iff_toNat_le.mp hle
    omega
  simp [isPlainByte, hlarge]

/-- Characters are written one after the other. -/
theorem encoded_cons (c : Char) (rest : List Char) :
    encoded (c :: rest) = encoded [c] ++ encoded rest := by
  simp [encoded, percentEncode]

theorem encoded_singleton (c : Char) :
    encoded [c] = percentEncode isPlainByte (String.utf8EncodeChar c) := by
  simp [encoded]

/-- A character stands for itself, or is written from a percent sign on. -/
theorem encoded_singleton_cases (c : Char) :
    encoded [c] = [c] ∨ ∃ rest, encoded [c] = '%' :: rest := by
  by_cases hc : c.toNat < 128
  case pos =>
    have hascii : encoded [c] = [c] ∨ (encoded [c]).head? = some '%' := of_ascii hc (by decide)
    exact hascii.imp id List.head?_eq_some_iff.mp
  case neg =>
    obtain ⟨b, bytes, hbytes⟩ := List.exists_cons_of_ne_nil (@String.utf8EncodeChar_ne_nil c)
    have hb : 128 ≤ b.toNat :=
      high_of_mem_utf8EncodeChar (by omega) b (hbytes ▸ List.mem_cons_self)
    refine .inr (List.head?_eq_some_iff.mp ?_)
    rw [encoded_singleton, hbytes]
    simp [percentEncode, isPlainByte_of_high hb]

/-- But for the percent sign and the slash, it is the encoder of letters. -/
theorem encoded_singleton_eq {c : Char} (hpercent : c ≠ '%') (hslash : c ≠ '/') :
    encoded [c] = percentEncode isPlainLetter (String.utf8EncodeChar c) := by
  rw [encoded_singleton]
  refine percentEncode_congr fun b hb => ?_
  by_cases hc : c.toNat < 128
  case pos =>
    rw [utf8EncodeChar_of_ascii hc, List.mem_singleton] at hb
    have hascii : c ≠ '%' → c ≠ '/' →
        isPlainByte (UInt8.ofNat c.toNat) = isPlainLetter (UInt8.ofNat c.toNat) :=
      of_ascii hc (by decide)
    rw [hb]
    exact hascii hpercent hslash
  case neg =>
    have hhigh := isPlainByte_of_high (high_of_mem_utf8EncodeChar (by omega) b hb)
    simp [isPlainLetter, hhigh]

-- ============================================================ a whole name

/-- A digit in an encoding is the same digit in the name. -/
theorem encoded_eq_cons {name rest : List Char} {c : Char} (hc : (hexValue? c).isSome = true)
    (h : encoded name = c :: rest) : ∃ others, name = c :: others ∧ rest = encoded others := by
  cases name with
  | nil => cases h
  | cons first others =>
      rw [encoded_cons] at h
      rcases encoded_singleton_cases first with hself | ⟨digits, hpercent⟩
      · rw [hself] at h
        obtain ⟨rfl, rfl⟩ := List.cons.inj h
        exact ⟨others, rfl, rfl⟩
      · rw [hpercent] at h
        obtain ⟨rfl, -⟩ := List.cons.inj h
        exact absurd hc (by decide)

/-- A name without slashes, and without percent signs that stand before two
digits, is decoded as itself. -/
theorem percentDecode_encoded :
    ∀ name : List Char, '/' ∉ name →
      (∀ before high low rest, name = before ++ '%' :: high :: low :: rest →
        byteOfHex? high low = none) →
      percentDecode (encoded name) = name.flatMap String.utf8EncodeChar := by
  intro name
  induction name with
  | nil => intro _ _; rfl
  | cons c rest ih =>
      intro hslash hescape
      obtain ⟨hc, hrest⟩ := List.ne_and_not_mem_of_not_mem_cons hslash
      have hread := ih hrest fun before high low others h =>
        hescape (c :: before) high low others (by rw [h, List.cons_append])
      rw [encoded_cons, List.flatMap_cons]
      by_cases hpercent : c = '%'
      case pos =>
        subst hpercent
        have hself : encoded ['%'] ++ encoded rest = '%' :: encoded rest := by
          rw [show encoded ['%'] = ['%'] by decide]
          rfl
        rw [hself, percentDecode_percent, hread]
        intro high low others hcons
        refine Option.eq_none_iff_forall_ne_some.mpr fun b hb => ?_
        obtain ⟨hhigh, hlow⟩ := isSome_of_byteOfHex? hb
        obtain ⟨afterHigh, rfl, hnext⟩ := encoded_eq_cons hhigh hcons
        obtain ⟨afterLow, rfl, -⟩ := encoded_eq_cons hlow hnext.symm
        rw [hescape [] high low afterLow rfl] at hb
        cases hb
      case neg =>
        rw [encoded_singleton_eq hpercent (Ne.symm hc),
          percentDecode_percentEncode_append keepsParts_isPlainLetter, hread]

/-- Encoding brings in no slash. -/
theorem slash_notMem_encoded : ∀ name : List Char, '/' ∉ name → '/' ∉ encoded name := by
  intro name
  induction name with
  | nil => intro _; exact List.not_mem_nil
  | cons c rest ih =>
      intro hslash
      obtain ⟨hc, hrest⟩ := List.ne_and_not_mem_of_not_mem_cons hslash
      rw [encoded_cons, List.mem_append]
      refine not_or.mpr ⟨?_, ih hrest⟩
      by_cases hpercent : c = '%'
      · rw [hpercent]
        decide
      · rw [encoded_singleton_eq hpercent (Ne.symm hc)]
        exact slash_notMem_percentEncode keepsParts_isPlainLetter _

/-- Encoding leaves no name empty. -/
theorem encoded_ne_nil {name : List Char} (hne : name ≠ []) : encoded name ≠ [] := by
  obtain ⟨c, rest, rfl⟩ := List.exists_cons_of_ne_nil hne
  rw [encoded_cons]
  rcases encoded_singleton_cases c with hself | ⟨digits, hpercent⟩
  · rw [hself]
    exact List.cons_ne_nil _ _
  · rw [hpercent]
    exact List.cons_ne_nil _ _

-- ============================================================ what is kept

/-- What an address keeps of what is written at its end, up to where the
path ends. -/
def kept (written : List Char) : List Char := (tidy written).takeWhile fun c => !endsPath c

/-- What ends in no blank and has nothing to drop is left alone, whatever
follows it. -/
theorem tidy_append {front : List Char}
    (hlast : ∀ c, front.getLast? = some c → isControlOrBlank c = false)
    (hkept : ∀ c ∈ front, isDropped c = false) (rest : List Char) :
    tidy (front ++ rest) = front ++ tidy rest := by
  have hall : front.filter (fun c => !isDropped c) = front :=
    List.filter_eq_self.mpr fun c hc => by rw [hkept c hc]; rfl
  have hfront : front.reverse.dropWhile isControlOrBlank = front.reverse := by
    rw [List.dropWhile_eq_self_iff]
    intro hpos
    rw [List.getElem_zero_eq_head, List.head_reverse, hlast _ (List.getLast?_eq_some_getLast _)]
    decide
  have htrim : ((front ++ rest).reverse.dropWhile isControlOrBlank).reverse
      = front ++ (rest.reverse.dropWhile isControlOrBlank).reverse := by
    rw [List.reverse_append, List.dropWhile_append]
    split
    case isTrue hempty =>
      rw [hfront, List.isEmpty_iff.mp hempty]
      simp
    case isFalse => simp
  rw [tidy, htrim, List.filter_append, hall]
  rfl

/-- What stands in front of a name stays in front of what is kept of it. -/
theorem kept_append {front : List Char}
    (hlast : ∀ c, front.getLast? = some c → isControlOrBlank c = false)
    (hchars : ∀ c ∈ front, endsPath c = false ∧ isDropped c = false) (rest : List Char) :
    kept (front ++ rest) = front ++ kept rest := by
  have hpath : ∀ c ∈ front, (!endsPath c) = true := fun c hc => by rw [(hchars c hc).1]; rfl
  rw [kept, tidy_append hlast fun c hc => (hchars c hc).2, List.takeWhile_append_of_pos hpath]
  rfl

/-- An address takes what is written for a name: what it keeps is one part
of a path, which is no dots, and is read as the name. -/
structure TakenFor (written name : String) : Prop where
  ne_nil : kept written.toList ≠ []
  inPart : ∀ c ∈ kept written.toList, c ≠ '/' ∧ c ≠ '\\'
  double : isDoubleDot (kept written.toList) = false
  single : isSingleDot (kept written.toList) = false
  reads : percentText? (encoded (kept written.toList)) = some name

instance (written name : String) : Decidable (TakenFor written name) :=
  decidable_of_iff
    (kept written.toList ≠ [] ∧ (kept written.toList).all (fun c => c ≠ '/' ∧ c ≠ '\\') = true
      ∧ isDoubleDot (kept written.toList) = false ∧ isSingleDot (kept written.toList) = false
      ∧ percentText? (encoded (kept written.toList)) = some name)
    ⟨fun h => ⟨h.1, List.all_iff_forall_prop.mp h.2.1, h.2.2.1, h.2.2.2.1, h.2.2.2.2⟩,
      fun h => ⟨h.ne_nil, List.all_iff_forall_prop.mpr h.inPart, h.double, h.single, h.reads⟩⟩

/-- The part that an address keeps writes the name that it is taken for. -/
theorem TakenFor.writes {written name : String} (h : TakenFor written name) :
    Writes (encoded (kept written.toList)) name where
  ne_nil := encoded_ne_nil h.ne_nil
  slash := slash_notMem_encoded _ fun hmem => (h.inPart _ hmem).1 rfl
  reads := h.reads

-- ========================================================== carried names

variable {name : String}

/-- Nothing in a carried name ends the path, and nothing is dropped. -/
theorem Carried.inPath (hname : Carried name) :
    ∀ c ∈ name.toList, endsPath c = false ∧ isDropped c = false :=
  fun c hc => ⟨(hname.inPart c hc).1, (hname.inPart c hc).2.1⟩

/-- A carried name is kept as it is. -/
theorem Carried.kept_eq (hname : Carried name) : kept name.toList = name.toList := by
  have hall := kept_append hname.last hname.inPath []
  rw [List.append_nil, show kept [] = [] from rfl, List.append_nil] at hall
  exact hall

/-- A character beyond ASCII is its own lower case. -/
theorem toLower_of_high {c : Char} (hc : 128 ≤ c.toNat) : c.toLower = c := by
  unfold Char.toLower
  refine dif_neg fun h => ?_
  have hbound : c.toNat ≤ 90 := UInt32.le_iff_toNat_le.mp h.2
  omega

/-- These are the lower case of nothing but themselves. -/
theorem toLower_eq_self {c : Char} (h : c.toLower ∈ ['.', '%', '2']) : c.toLower = c := by
  by_cases hc : c.toNat < 128
  case pos =>
    have hascii : c.toLower ∈ ['.', '%', '2'] → c.toLower = c := of_ascii hc (by decide)
    exact hascii h
  case neg => exact toLower_of_high (by omega)

/-- A name whose lower case begins with one of these begins with it itself. -/
theorem eq_cons_of_map_toLower {chars ds : List Char} {d : Char} (hd : d ∈ ['.', '%', '2'])
    (h : chars.map Char.toLower = d :: ds) :
    ∃ rest, chars = d :: rest ∧ rest.map Char.toLower = ds := by
  obtain ⟨c, rest, rfl, hc, hrest⟩ := List.map_eq_cons_iff.mp h
  subst hc
  exact ⟨rest, by rw [toLower_eq_self hd], hrest⟩

/-- A carried name has no encoded dot. -/
theorem Carried.map_toLower_ne_escape (hname : Carried name) (before : List Char)
    {rest dots : List Char} (h : name.toList = before ++ rest) :
    rest.map Char.toLower ≠ '%' :: '2' :: 'e' :: dots := by
  intro hpercent
  obtain ⟨digits, rfl, hdigits⟩ := eq_cons_of_map_toLower (by decide) hpercent
  obtain ⟨second, rfl, hsecond⟩ := eq_cons_of_map_toLower (by decide) hdigits
  obtain ⟨low, rest, rfl, hlow, -⟩ := List.map_eq_cons_iff.mp hsecond
  have hnone := hname.escape before '2' low rest h
  by_cases hc : low.toNat < 128
  case pos =>
    have hascii : low.toLower = 'e' → byteOfHex? '2' low ≠ none := of_ascii hc (by decide)
    exact hascii hlow hnone
  case neg =>
    rw [toLower_of_high (by omega)] at hlow
    rw [hlow] at hc
    exact hc (by decide)

/-- A carried name is no part that goes back. -/
theorem Carried.isDoubleDot_eq_false (hname : Carried name) : isDoubleDot name.toList = false := by
  have hdots : name.toList.map Char.toLower ≠ ['.', '.'] := by
    intro h
    obtain ⟨others, hchars, hothers⟩ := eq_cons_of_map_toLower (by decide) h
    obtain ⟨rest, rfl, hrest⟩ := eq_cons_of_map_toLower (by decide) hothers
    rw [List.map_eq_nil_iff.mp hrest] at hchars
    exact hname.dots (String.toList_inj.mp hchars)
  have hfirst : name.toList.map Char.toLower ≠ ['.', '%', '2', 'e'] := by
    intro h
    obtain ⟨rest, hchars, hrest⟩ := eq_cons_of_map_toLower (by decide) h
    exact hname.map_toLower_ne_escape ['.'] hchars hrest
  have hescape (dots : List Char) : name.toList.map Char.toLower ≠ '%' :: '2' :: 'e' :: dots :=
    hname.map_toLower_ne_escape [] rfl
  simp [isDoubleDot, hdots, hfirst, hescape]

/-- Nor one that stays. -/
theorem Carried.isSingleDot_eq_false (hname : Carried name) : isSingleDot name.toList = false := by
  have hdot : name.toList.map Char.toLower ≠ ['.'] := by
    intro h
    obtain ⟨rest, hchars, hrest⟩ := eq_cons_of_map_toLower (by decide) h
    rw [List.map_eq_nil_iff.mp hrest] at hchars
    exact hname.dot (String.toList_inj.mp hchars)
  have hescape : name.toList.map Char.toLower ≠ ['%', '2', 'e'] :=
    hname.map_toLower_ne_escape [] rfl
  simp [isSingleDot, hdot, hescape]

/-- A carried name is taken for itself. -/
theorem Carried.takenFor (hname : Carried name) : TakenFor name name where
  ne_nil := by
    rw [hname.kept_eq]
    exact fun hnil => hname.ne_empty (String.toList_eq_nil_iff.mp hnil)
  inPart := by
    rw [hname.kept_eq]
    exact fun c hc => (hname.inPart c hc).2.2
  double := by rw [hname.kept_eq, hname.isDoubleDot_eq_false]
  single := by rw [hname.kept_eq, hname.isSingleDot_eq_false]
  reads := by
    have hslash : '/' ∉ name.toList := fun hmem => (hname.inPart _ hmem).2.2.1 rfl
    rw [hname.kept_eq, percentText?, percentDecode_encoded _ hslash hname.escape]
    exact ofUtf8?_utf8 name

/-- A mark that ends the path ends the name too, so that with whatever
follows it the name is taken for the one in front of it. -/
theorem Carried.takenFor_of_mark (hname : Carried name) {mark : Char}
    (hmark : endsPath mark = true) (rest : List Char) :
    TakenFor (String.ofList (name.toList ++ mark :: rest)) name := by
  have hends : kept (mark :: rest) = [] := by
    have hplain : isControlOrBlank mark = false ∧ isDropped mark = false := by
      rcases Bool.or_eq_true_iff.mp hmark with heq | heq <;> rw [beq_iff_eq.mp heq] <;> decide
    have htidy : tidy ([mark] ++ rest) = [mark] ++ tidy rest :=
      tidy_append (by simp [hplain.1]) (by simp [hplain.2]) rest
    rw [kept, show mark :: rest = [mark] ++ rest from rfl, htidy]
    simp [hmark]
  have hkept : kept (name.toList ++ mark :: rest) = kept name.toList := by
    rw [kept_append hname.last hname.inPath, hends, List.append_nil, hname.kept_eq]
  have htaken := hname.takenFor
  constructor <;> rw [String.toList_ofList, hkept]
  exacts [htaken.ne_nil, htaken.inPart, htaken.double, htaken.single, htaken.reads]

-- =============================================================== the address

/-- Where nothing that is kept is taken for a slash, the parts of the path
are those that are written. -/
theorem requested_eq {path written : List Char} {parts : List (List Char)}
    (hkept : kept path = written) (hback : '\\' ∉ written)
    (hparts : pieces '/' written = [] :: parts) :
    requested path = '/' :: List.intercalate ['/'] (resolve [] parts) := by
  have hwritten : (tidy path).takeWhile (fun c => !endsPath c) = written := hkept
  have hslashed : written.map (fun c => if c = '\\' then '/' else c) = written := by
    refine Eq.trans (List.map_congr_left fun c hc => ?_) (List.map_id' _)
    exact if_neg fun (heq : c = '\\') => hback (heq ▸ hc)
  unfold requested
  dsimp only
  rw [hwritten, hslashed, hparts]

/-- What stands before a name in a path. -/
def frontOf (subject : List Char) : List Char :=
  '/' :: "admin".toList ++ '/' :: subject ++ ['/']

theorem frontOf_eq (subject : String) :
    frontOf subject.toList = ("/admin/" ++ subject ++ "/").toList := by
  have hadmin : "/admin/".toList = '/' :: "admin".toList ++ ['/'] := by decide
  have hslash : "/".toList = ['/'] := by decide
  rw [String.toList_append, String.toList_append, hadmin, hslash, List.append_assoc ('/' :: _)]
  rfl

/-- The subjects of a path stay where they are, whatever follows them. -/
theorem subject_plain : ∀ subject ∈ ["groups".toList, "refresh".toList],
    '/' ∉ subject ∧ isDoubleDot subject = false
      ∧ isSingleDot subject = false ∧ encoded subject = subject
      ∧ (frontOf subject).all fun c =>
        endsPath c = false ∧ isDropped c = false ∧ c ≠ '\\' := by
  decide

/-- What is kept of a name stays the last part of the path that the name is
written behind. -/
theorem requested_part {subject : List Char}
    (hsubject : subject ∈ ["groups".toList, "refresh".toList]) {written : String}
    (htaken : TakenFor written name) :
    requested (frontOf subject ++ written.toList)
      = frontOf subject ++ encoded (kept written.toList) := by
  obtain ⟨hslash, hdouble, hsingle, hencoded, hall⟩ := subject_plain subject hsubject
  have hfront := List.all_iff_forall_prop.mp hall
  have hlast : ∀ c, (frontOf subject).getLast? = some c → isControlOrBlank c = false := by
    intro c hc
    rw [frontOf, List.getLast?_concat] at hc
    exact Option.some.inj hc ▸ rfl
  have hkept : kept (frontOf subject ++ written.toList)
      = frontOf subject ++ kept written.toList :=
    kept_append hlast (fun c hc => ⟨(hfront c hc).1, (hfront c hc).2.1⟩) _
  have hback : '\\' ∉ frontOf subject ++ kept written.toList := by
    intro hmem
    rcases List.mem_append.mp hmem with hmem | hmem
    · exact (hfront _ hmem).2.2 rfl
    · exact (htaken.inPart _ hmem).2 rfl
  have hparts : pieces '/' (frontOf subject ++ kept written.toList)
      = [[], "admin".toList, subject, kept written.toList] := by
    have hjoined : frontOf subject ++ kept written.toList
        = List.intercalate ['/'] [[], "admin".toList, subject, kept written.toList] := by
      simp [frontOf, List.intercalate]
    rw [hjoined, pieces_intercalate '/' (List.cons_ne_nil _ _)]
    intro p hp
    simp only [List.mem_cons, List.not_mem_nil, or_false] at hp
    rcases hp with rfl | rfl | rfl | rfl
    · exact List.not_mem_nil
    · decide
    · exact hslash
    · exact fun hmem => (htaken.inPart _ hmem).1 rfl
  have hadmin : isDoubleDot "admin".toList = false ∧ isSingleDot "admin".toList = false
      ∧ encoded "admin".toList = "admin".toList := by decide
  have hresolved : resolve [] ["admin".toList, subject, kept written.toList]
      = ["admin".toList, subject, encoded (kept written.toList)] := by
    simp only [resolve, hadmin, hdouble, hsingle, hencoded, htaken.double, htaken.single]
    rfl
  rw [requested_eq hkept hback hparts, hresolved]
  simp [frontOf, List.intercalate]

end Warden.Client
