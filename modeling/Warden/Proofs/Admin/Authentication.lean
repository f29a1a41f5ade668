/-
Requests without the key.

# What counts as the key

A key is shown by the first header of its name and by no other.
`Unauthorized` lists the four ways in which that header fails to show it:
there is none, it holds a byte that is not visible, it does not begin as
it should, or something else than the key follows. There are no more
(`unauthorized_iff`), since a request that fails in none of them shows
the key (`shows_iff`).

# What happens without it

The reply to an unauthorized request is made of the request alone. No
part of the host goes into it and none is touched, whatever the path asks
for and whatever the body is (`answer_of_not_shows`). Everybody else is
answered by the target, which has no use for the code 401
(`code_route_ne`), so that the code tells the two apart
(`code_answer_eq_iff`).
-/
import Warden.Admin.Router
import Warden.Session

namespace Warden.Admin

open Text

namespace Request

variable {key : String} {request : Request} {value : List UInt8}

-- ============================================================== the header

/-- The value of the first header that may carry a key. -/
def FirstKeyHeader (request : Request) (value : List UInt8) : Prop :=
  ∃ before after, request.headers = before ++ ⟨keyHeader, value⟩ :: after
    ∧ ∀ header ∈ before, header.name ≠ keyHeader

/-- Of several headers with a key the first one counts. -/
theorem value?_keyHeader_eq_some_iff :
    request.value? keyHeader = some value ↔ request.FirstKeyHeader value := by
  unfold value? FirstKeyHeader
  rw [Option.map_eq_some_iff]
  constructor
  · rintro ⟨⟨name, _⟩, hfind, rfl⟩
    obtain ⟨hname, before, after, hheaders, hbefore⟩ := List.find?_eq_some_iff_append.mp hfind
    obtain rfl : name = keyHeader := by simpa using hname
    exact ⟨before, after, hheaders, fun header hmem => by simpa using hbefore header hmem⟩
  · rintro ⟨before, after, hheaders, hbefore⟩
    refine ⟨⟨keyHeader, value⟩, ?_, rfl⟩
    rw [List.find?_eq_some_iff_append]
    refine ⟨by simp, before, after, hheaders, fun header hmem => ?_⟩
    simpa using hbefore header hmem

/-- There is no key if no header is the one for keys. -/
theorem value?_keyHeader_eq_none_iff :
    request.value? keyHeader = none ↔ ∀ header ∈ request.headers, header.name ≠ keyHeader := by
  unfold value?
  rw [Option.map_eq_none_iff, List.find?_eq_none]
  simp

-- ============================================================= the reasons

/-- Why a request is turned away. -/
inductive Unauthorized (key : String) (request : Request) : Prop
  | absent (h : ∀ header ∈ request.headers, header.name ≠ keyHeader)
  | hidden {value : List UInt8} (hfirst : request.FirstKeyHeader value)
      (h : ∃ b ∈ value, b ≠ 0x09 ∧ (b < 0x20 ∨ 0x7E < b))
  | unmarked {value : List UInt8} (hfirst : request.FirstKeyHeader value)
      (h : ¬ utf8 "Bearer " <+: value)
  | otherKey {rest : List UInt8} (hfirst : request.FirstKeyHeader (utf8 "Bearer " ++ rest))
      (h : rest ≠ utf8 key)

/-- Control characters but the tab, and bytes beyond ASCII, are not visible. -/
theorem isVisible_eq_false_iff {b : UInt8} :
    isVisible b = false ↔ b ≠ 0x09 ∧ (b < 0x20 ∨ 0x7E < b) := by
  unfold isVisible
  simp only [Bool.or_eq_false_iff, Bool.and_eq_false_iff, decide_eq_false_iff_not,
    beq_eq_false_iff_ne, UInt8.lt_iff_toNat_lt, UInt8.le_iff_toNat_le, Ne, ← UInt8.toNat_inj,
    UInt8.reduceToNat]
  omega

theorem visible_bearer : ∀ b ∈ bearer, isVisible b = true := List.all_eq_true.mp (by decide)

/-- A token is what stands behind the scheme in a visible header. -/
theorem token?_eq_some_iff {rest : List UInt8} :
    request.token? = some rest
      ↔ request.FirstKeyHeader (bearer ++ rest) ∧ ∀ b ∈ rest, isVisible b = true := by
  unfold token?
  rw [← value?_keyHeader_eq_some_iff]
  cases request.value? keyHeader with
  | none => simp
  | some value =>
      have hsplit : value.all isVisible && bearer.isPrefixOf value
          ↔ (∀ b ∈ value, isVisible b = true) ∧ bearer <+: value := by
        rw [Bool.and_eq_true, List.all_eq_true, List.isPrefixOf_iff_prefix]
      dsimp only
      rw [Option.some_inj]
      split
      case isTrue hcond =>
        obtain ⟨hvisible, tail, rfl⟩ := hsplit.mp hcond
        rw [List.drop_left, Option.some_inj, List.append_cancel_left_eq]
        constructor
        · rintro rfl
          exact ⟨rfl, fun b hb => hvisible b (List.mem_append_right _ hb)⟩
        · exact And.left
      case isFalse hcond =>
        constructor
        · intro h
          cases h
        · rintro ⟨rfl, hrest⟩
          refine absurd (hsplit.mpr ⟨fun b hb => ?_, List.prefix_append _ _⟩) hcond
          rcases List.mem_append.mp hb with hbearer | htail
          · exact visible_bearer b hbearer
          · exact hrest b htail

/-- A request shows the key if its header is the scheme and the key, and the
key is visible. -/
theorem shows_iff :
    request.shows key = true
      ↔ request.FirstKeyHeader (bearer ++ utf8 key) ∧ ∀ b ∈ utf8 key, isVisible b = true := by
  unfold shows
  rw [beq_iff_eq, token?_eq_some_iff]

/-- There is one first header with a key. -/
theorem FirstKeyHeader.eq {other : List UInt8} (h : request.FirstKeyHeader value)
    (hother : request.FirstKeyHeader other) : value = other := by
  rw [← value?_keyHeader_eq_some_iff] at h hother
  exact Option.some.inj (h.symm.trans hother)

/-- Who is unauthorized does not show the key. -/
theorem Unauthorized.shows_eq_false (h : request.Unauthorized key) :
    request.shows key = false := by
  rw [Bool.eq_false_iff, Ne, shows_iff]
  rintro ⟨hkey, hvisible⟩
  cases h with
  | absent h =>
      obtain ⟨before, after, hheaders, -⟩ := hkey
      have hmem : ⟨keyHeader, bearer ++ utf8 key⟩ ∈ request.headers := by
        rw [hheaders]
        exact List.mem_append_right _ List.mem_cons_self
      exact h _ hmem rfl
  | hidden hfirst h =>
      obtain rfl := hfirst.eq hkey
      obtain ⟨b, hb, hhidden⟩ := h
      have hnot : isVisible b = false := isVisible_eq_false_iff.mpr hhidden
      rcases List.mem_append.mp hb with hbearer | htail
      · rw [visible_bearer b hbearer] at hnot
        cases hnot
      · rw [hvisible b htail] at hnot
        cases hnot
  | unmarked hfirst h =>
      obtain rfl := hfirst.eq hkey
      exact h (List.prefix_append _ _)
  | otherKey hfirst h => exact h (List.append_cancel_left (hfirst.eq hkey))

/-- Who does not show the key is unauthorized. -/
theorem unauthorized_of_shows_eq_false (hshows : request.shows key = false) :
    request.Unauthorized key := by
  cases hvalue : request.value? keyHeader with
  | none => exact .absent (value?_keyHeader_eq_none_iff.mp hvalue)
  | some value =>
      have hfirst := value?_keyHeader_eq_some_iff.mp hvalue
      by_cases hmark : utf8 "Bearer " <+: value
      case neg => exact .unmarked hfirst hmark
      case pos =>
        obtain ⟨rest, rfl⟩ := hmark
        by_cases hrest : rest = utf8 key
        case neg => exact .otherKey hfirst hrest
        case pos =>
          subst hrest
          -- The key stands where it should, so it can only be that it may not be read.
          cases hall : (utf8 key).all isVisible with
          | true =>
              rw [shows_iff.mpr ⟨hfirst, List.all_eq_true.mp hall⟩] at hshows
              cases hshows
          | false =>
              obtain ⟨b, hb, hnot⟩ := List.all_eq_false.mp hall
              refine .hidden hfirst ⟨b, List.mem_append_right _ hb, ?_⟩
              exact isVisible_eq_false_iff.mp (Bool.eq_false_iff.mpr hnot)

/-- There are no other ways not to show the key. -/
theorem unauthorized_iff : request.Unauthorized key ↔ request.shows key = false :=
  ⟨Unauthorized.shows_eq_false, unauthorized_of_shows_eq_false⟩

end Request

-- =============================================================== the replies

variable {key : String} {request : Request}

/-- No response of a refresh command is a refusal of the key. -/
theorem code_ofResponse_ne (r : Response) : (ofResponse r).code ≠ 401 := by
  unfold ofResponse Reply.json
  dsimp only
  split
  · decide
  · split <;> decide

/-- Nothing that is served is one. -/
theorem code_serve_ne (files : FileSystem) (s : Service) (target : Target) (request : Request)
    (h : Host) : (serve files s target request h).value.1.code ≠ 401 := by
  cases target with
  | status => exact (by decide : (200 : Nat) ≠ 401)
  | identifiers => exact (by decide : (200 : Nat) ≠ 401)
  | groups part =>
      show (groupsReply part s).code ≠ 401
      unfold groupsReply
      split
      · exact (by decide : (400 : Nat) ≠ 401)
      · exact (by decide : (200 : Nat) ≠ 401)
  | refresh part =>
      show (refresh files part request.body request.detail h).value.1.code ≠ 401
      unfold refresh
      split
      · exact (by decide : (400 : Nat) ≠ 401)
      · split
        · exact (by decide : (413 : Nat) ≠ 401)
        · split
          · exact (by decide : (400 : Nat) ≠ 401)
          · exact code_ofResponse_ne _

/-- Whoever shows the key is told something else than to show it. -/
theorem code_route_ne (files : FileSystem) (s : Service) (request : Request) (h : Host) :
    (route files s request h).value.1.code ≠ 401 := by
  unfold route
  split
  case h_1 => exact (by decide : (404 : Nat) ≠ 401)
  case h_2 target _ =>
    split
    case isFalse => exact (by decide : (405 : Nat) ≠ 401)
    case isTrue =>
      rw [Observed.value_bind, Observed.value_pure]
      dsimp only
      split
      · exact code_serve_ne files s target request h
      · exact code_serve_ne files s target request h

/-- The reply to a request without the key. -/
def turnedAway (request : Request) : Reply := { Reply.bare 401 with allow := allowed request }

/-- Without the key, one reply is all there is, and one event. -/
theorem answer_of_not_shows (hshows : request.shows key = false) (files : FileSystem)
    (s : Service) (h : Host) :
    answer files key s request h
      = ⟨(turnedAway request, h), [.event (.rejected request.path)]⟩ := by
  unfold answer
  rw [hshows]
  rfl

/-- So the code alone tells whether the key was shown. -/
theorem code_answer_eq_iff (files : FileSystem) (s : Service) (h : Host) :
    (answer files key s request h).value.1.code = 401 ↔ request.shows key = false := by
  cases hshows : request.shows key with
  | false => simp [answer_of_not_shows hshows, turnedAway, Reply.bare]
  | true =>
      have hcode : (answer files key s request h).value.1.code
          = (route files s request h).value.1.code := by
        unfold answer
        rw [hshows]
        rfl
      rw [hcode]
      simp [code_route_ne]

/-- To put back the host that the service at work is on is to change nothing. -/
theorem withWorking_of_working {session : Session} {host : Host} {number : Nat} {service : Service}
    (hworking : session.working = some (host, number, service)) :
    session.withWorking host = session := by
  unfold Session.working at hworking
  obtain ⟨placement, hplacement, hfound⟩ := Option.bind_eq_some_iff.mp hworking
  unfold Session.withWorking
  cases placement with
  | here n =>
      obtain ⟨_, -, heq⟩ := Option.bind_eq_some_iff.mp hfound
      obtain rfl : session.host = host := congrArg Prod.fst (Option.some.inj heq)
      rw [hplacement]
      show { session with service := some (.here n) } = session
      rw [← hplacement]
  | apart other n =>
      obtain ⟨_, -, heq⟩ := Option.bind_eq_some_iff.mp hfound
      obtain rfl : other = host := congrArg Prod.fst (Option.some.inj heq)
      rw [hplacement]
      show { session with service := some (.apart other n) } = session
      rw [← hplacement]

/-- In a session, too, a request without the key adds one event and changes
nothing else. -/
theorem session_answer_of_not_shows {session : Session} {given : Option String}
    (hworking : session.working.isSome = true)
    (hshows : request.shows (given.getD session.key) = false) :
    session.answer given request
      = some (turnedAway request,
          { session with events := session.events ++ [.rejected request.path] }) := by
  obtain ⟨⟨host, number, service⟩, hfound⟩ := Option.isSome_iff_exists.mp hworking
  unfold Session.answer Session.onService
  rw [hfound]
  simp only [Session.noting, answer_of_not_shows hshows, List.filterMap_cons_none,
    List.filterMap_nil, List.append_nil, Option.some.injEq, List.filterMap_cons_some,
    Metrics.recordAll, List.foldl_cons, List.foldl_nil, Option.pure_def, Option.bind_eq_bind,
    Option.bind_some, Prod.mk.injEq, true_and]
  exact withWorking_of_working hfound

/-- A request without the key, whatever it asks for, is answered with 401,
and so is no other request. The reply is the same for all services with
that key, on any host and over any files; the host stays as it is, and
all that is noted is the rejection. So a session that answers such a
request has its registry and policies, its calls and its metrics as
before, and one more event. -/
theorem unauthorized_learns_nothing (key : String) (request : Request) :
    (∀ files s h, (answer files key s request h).value.1.code = 401 ↔ request.Unauthorized key)
      ∧ (request.Unauthorized key → ∃ reply : Reply, reply.code = 401 ∧ reply.body = .empty
        ∧ (∀ files s h, answer files key s request h
            = ⟨(reply, h), [.event (.rejected request.path)]⟩)
        ∧ ∀ (session : Session) (given : Option String), given.getD session.key = key →
            session.working.isSome = true →
              session.answer given request = some (reply,
                { session with events := session.events ++ [.rejected request.path] })) := by
  constructor
  · intro files s h
    rw [Request.unauthorized_iff]
    exact code_answer_eq_iff files s h
  · intro hun
    have hshows := Request.unauthorized_iff.mp hun
    refine ⟨turnedAway request, rfl, rfl, answer_of_not_shows hshows, ?_⟩
    rintro session given rfl hworking
    exact session_answer_of_not_shows hworking hshows

end Warden.Admin
