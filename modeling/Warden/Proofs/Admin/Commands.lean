/-
Refresh commands that come in as requests.

# One command, two ways to give it

A request with the key that posts to the path of an identifier does what
a dispatch of that identifier does, and nothing beside it: the notes are
the same, so the same callbacks ran with the same arguments and the same
measures were taken (`refresh_of_carries`). What is added is the reply.
Its code is read off two facts about the dispatch, how it ended and
whether anything was registered (`reports_dispatch`); the message of the
response, which a callback may word like that for unknown identifiers,
does not go into it.

# Bodies

`Carries` is which arguments a body carries. One that carries none is
refused before the identifier is looked up (`refresh_of_not_carries`), and
one that is too long before it is read (`refresh_of_too_long`).
-/
import Warden.Proofs.Admin.Routing
import Warden.Proofs.Host.Dispatch
import Warden.Proofs.Refresh.Ledger

namespace Warden.Admin

open Text

variable (files : FileSystem) {part : List Char} {body : List UInt8} {identifier : String}
  {args : List String} (detail : String) (h : Host)

-- ================================================================= bodies

/-- What arguments a body carries; an empty one carries none. -/
def Carries (body : List UInt8) (args : List String) : Prop :=
  (body = [] ∧ args = []) ∨ (body ≠ [] ∧ Command.argsOf? body = some args)

/-- A body is read as the arguments that it carries. -/
theorem argsIn_eq_some_iff : argsIn body = some args ↔ Carries body args := by
  unfold argsIn Carries
  cases body with
  | nil => simp [eq_comm]
  | cons b rest => simp

/-- A body that carries no arguments is not read. -/
theorem argsIn_eq_none_iff : argsIn body = none ↔ ∀ args, ¬ Carries body args := by
  rw [Option.eq_none_iff_forall_ne_some]
  exact forall_congr' fun args => not_congr argsIn_eq_some_iff

/-- A body with arguments is a dispatch of its identifier with them. -/
theorem refresh_of_carries (hpart : Writes part identifier) (hlength : body.length ≤ maxBody)
    (hcarries : Carries body args) :
    refresh files part body detail h
      = (fun done => (ofResponse done.1, done.2)) <$> h.dispatch files identifier args := by
  have hargs : argsIn body = some args := argsIn_eq_some_iff.mpr hcarries
  unfold refresh
  simp only [hpart.reads, hargs, if_neg (Nat.not_lt.mpr hlength)]
  rfl

/-- Another body is refused, and nothing runs. -/
theorem refresh_of_not_carries (hpart : Writes part identifier) (hlength : body.length ≤ maxBody)
    (hnone : ∀ args, ¬ Carries body args) :
    refresh files part body detail h = pure (bodyNotRead detail, h) := by
  have hargs : argsIn body = none := argsIn_eq_none_iff.mpr hnone
  unfold refresh
  simp only [hpart.reads, hargs, if_neg (Nat.not_lt.mpr hlength)]

/-- A body that is too long is refused, and nothing runs. -/
theorem refresh_of_too_long (hpart : Writes part identifier) (hlength : maxBody < body.length) :
    refresh files part body detail h = pure (bodyTooLarge, h) := by
  unfold refresh
  simp only [hpart.reads, if_pos hlength]

-- ================================================================ replies

/-- A reply tells of a response, and of whether anything was registered. -/
structure Reports (reply : Reply) (r : Response) (registered : Bool) : Prop where
  body : reply.body.text
    = (Json.object [("message", .text r.message), ("status", .number r.status)]).compact
  succeeded : reply.code = 200 ↔ r.status = 0
  unknown : reply.code = 404 ↔ registered = false
  failed : reply.code = 500 ↔ registered = true ∧ r.status ≠ 0

/-- Only where nothing is registered does the response say so, and then it
is no success. -/
theorem unknown_dispatch {r : Response} (hr : (h.dispatch files identifier args).value.1 = r) :
    (r.unknown = true ↔ h.registry.contains identifier = false)
      ∧ (r.unknown = true → r.status ≠ 0) := by
  have hcontains : h.registry.contains identifier = (h.handler? identifier).isSome := by
    rw [Registry.contains_eq_isSome, Host.handler?, Option.isSome_map]
  cases hhandler : h.handler? identifier with
  | none =>
      rw [Host.dispatch_of_handler?_eq_none files args hhandler] at hr
      rw [hcontains, hhandler, ← hr]
      simp [Response.unknownIdentifier, Response.failure]
  | some handler =>
      rw [Host.dispatch_of_handler?_eq_some files args hhandler] at hr
      rw [hcontains, hhandler, ← hr]
      have hknown := Response.status_ofOutcome (Host.run files handler args h.world).value.1
      simp [hknown.2.2]

/-- The reply to a dispatch reports its response. -/
theorem reports_dispatch {r : Response} (hr : (h.dispatch files identifier args).value.1 = r) :
    Reports (ofResponse r) r (h.registry.contains identifier) := by
  obtain ⟨hunknown, hfailed⟩ := unknown_dispatch files h hr
  have hcode : (ofResponse r).code
      = if r.status = 0 then 200 else if r.unknown = true then 404 else 500 := by
    simp [ofResponse, Reply.json, Response.isSuccess]
  constructor
  case body => rfl
  case succeeded => rw [hcode]; grind
  case unknown => rw [hcode]; grind
  case failed => rw [hcode]; grind

-- ================================================================ the route

/-- What the key and the path lead to. -/
theorem answer_refresh {key : String} {request : Request} (hshows : request.shows key = true)
    (hmethod : request.method = "POST") (hpart : Writes part identifier)
    (hpath : request.path = "/admin/refresh/" ++ String.ofList part) (s : Service) :
    answer files key s request h
      = (fun served => ({ served.1 with allow := none }, served.2))
          <$> refresh files part request.body request.detail h := by
  have htarget : Target.ofPath? request.path = some (.refresh part) := by
    rw [hpath, ofPath?_refresh hpart]
  exact answer_of_shows files s h hshows htarget (by rw [hmethod]; decide) (by rw [hmethod]; rfl)

/-- With the key, a request that posts to the path of an identifier is a
dispatch of that identifier, with the arguments in its body: the host is
left alike, the same is noted on the way, and the reply reports how the
dispatch ended. A body that carries no arguments, and one that is longer
than it may be, is refused whatever is registered, and nothing is
dispatched. Every identifier but the empty one has a path. -/
theorem refresh_route_dispatches {key : String} {request : Request}
    (hshows : request.shows key = true) (hmethod : request.method = "POST")
    (hpart : Writes part identifier)
    (hpath : request.path = "/admin/refresh/" ++ String.ofList part) (s : Service) :
    (request.body.length ≤ maxBody → ∀ args, Carries request.body args →
        ∃ reply, answer files key s request h
            = ⟨(reply, (h.dispatch files identifier args).value.2),
                (h.dispatch files identifier args).notes⟩
          ∧ Reports reply (h.dispatch files identifier args).value.1
              (h.registry.contains identifier))
      ∧ (request.body.length ≤ maxBody → (∀ args, ¬ Carries request.body args) →
        ∃ reply, answer files key s request h = ⟨(reply, h), []⟩ ∧ reply.code = 400
          ∧ reply.body = .payload (.response (.failure ("Invalid request body: " ++ request.detail))))
      ∧ (maxBody < request.body.length →
        ∃ reply, answer files key s request h = ⟨(reply, h), []⟩ ∧ reply.code = 413)
      ∧ ∀ plain, KeepsParts plain → ∀ name, name ≠ "" →
          Writes (percentEncode plain (utf8 name)) name := by
  have hanswer := answer_refresh files h hshows hmethod hpart hpath s
  refine ⟨fun hlength args hcarries => ?_, fun hlength hnone => ?_, fun hlength => ?_,
    fun plain hplain name hne => writes_percentEncode hplain hne⟩
  · refine ⟨ofResponse (h.dispatch files identifier args).value.1, ?_, reports_dispatch files h rfl⟩
    rw [hanswer, refresh_of_carries files request.detail h hpart hlength hcarries, Functor.map_map]
    exact Observed.ext rfl (Observed.notes_map _ _)
  · refine ⟨bodyNotRead request.detail, ?_, rfl, rfl⟩
    rw [hanswer, refresh_of_not_carries files request.detail h hpart hlength hnone, map_pure]
    rfl
  · refine ⟨bodyTooLarge, ?_, rfl⟩
    rw [hanswer, refresh_of_too_long files request.detail h hpart hlength, map_pure]
    rfl

/-- A callback that breaks off with the text for unknown identifiers, under
an identifier with a slash and a letter beyond ASCII. -/
theorem refresh_route_dispatches_panic :
    let h := (Host.new.register "ann/é" 3 fun _ =>
      .panicked (some "Invalid identifier: ann/é")).value
    let request : Request :=
      { method := "POST", path := "/admin/refresh/ann%2F%C3%A9"
        headers := [⟨"authorization", utf8 "Bearer key"⟩]
        body := utf8 "\x7b\"args\":[\"x\"]\x7d" }
    let answered := answer (.empty []) "key" (.new (.fixed {}) .md5) request h
    request.shows "key" = true ∧ Writes "ann%2F%C3%A9".toList "ann/é"
      ∧ request.body.length ≤ maxBody ∧ Carries request.body ["x"]
      ∧ answered.value.1.code = 500 ∧ .call 3 ["x"] ∈ answered.notes := by
  intro h request answered
  have hshows : request.shows "key" = true := by decide
  have hpart : Writes "ann%2F%C3%A9".toList "ann/é" := ⟨by decide, by decide, by decide +kernel⟩
  have hlength : request.body.length ≤ maxBody := by
    have hsmall : request.body.length = 14 := by decide
    have hlarge : maxBody = 2097152 := rfl
    omega
  have hcarries : Carries request.body ["x"] := .inr ⟨by decide, by decide +kernel⟩
  obtain ⟨hdispatches, -⟩ := refresh_route_dispatches (.empty []) h hshows rfl hpart (by decide)
    (.new (.fixed {}) .md5)
  obtain ⟨reply, hanswer, hreports⟩ := hdispatches hlength ["x"] hcarries
  have hanswered : answered = _ := hanswer
  have hfound : h.registry.contains "ann/é" = true := by decide
  have hfailed : (h.dispatch (.empty []) "ann/é" ["x"]).value.1.status ≠ 0 := by decide
  have hcalled : Note.call 3 ["x"] ∈ (h.dispatch (.empty []) "ann/é" ["x"]).notes := by
    decide
  refine ⟨hshows, hpart, hlength, hcarries, ?_, ?_⟩
  · rw [hanswered]
    exact hreports.failed.mpr ⟨hfound, hfailed⟩
  · rw [hanswered]
    exact hcalled

/-- A body of blanks has nothing else. -/
theorem dropWhile_isBlankByte_replicate (n : Nat) :
    (List.replicate n 0x20).dropWhile Command.isBlankByte = [] := by
  rw [List.dropWhile_eq_nil_iff]
  intro b hb
  rw [List.eq_of_mem_replicate hb]
  decide

/-- Blanks after two brackets do not make a command of another kind. -/
theorem carries_brackets_blanks (n : Nat) :
    Carries (utf8 "[]" ++ List.replicate n 0x20) [] := by
  have hsplit : utf8 "[]" ++ List.replicate n 0x20 = 0x5B :: 0x5D :: List.replicate n 0x20 := rfl
  have hrest : Command.tokensWithin (n + 1) (List.replicate n 0x20) = some [] := by
    rw [Command.tokensWithin, dropWhile_isBlankByte_replicate]
  have htokens : Command.tokens (utf8 "[]" ++ List.replicate n 0x20)
      = some [.openList, .closeList] := by
    rw [hsplit, Command.tokens, List.length_cons, List.length_cons, List.length_replicate]
    show Option.map _ (Option.map _ (Command.tokensWithin (n + 1) (List.replicate n 0x20))) = _
    rw [hrest]
    rfl
  refine .inr ⟨by rw [hsplit]; exact List.cons_ne_nil _ _, ?_⟩
  unfold Command.argsOf?
  rw [htokens]
  rfl

/-- Two brackets carry no arguments, and would be a command that succeeds.
Filled up with blanks beyond what is allowed they are refused, and the
callback does not run. -/
theorem command_too_long_is_refused :
    let h := (Host.new.register "A" 0 fun _ => .done).value
    let request : Request :=
      { method := "POST", path := "/admin/refresh/A"
        headers := [⟨"authorization", utf8 "Bearer key"⟩]
        body := utf8 "[]" ++ List.replicate maxBody 0x20 }
    let answered := answer (.empty []) "key" (.new (.fixed {}) .md5) request h
    request.shows "key" = true ∧ Writes ['A'] "A" ∧ Carries request.body []
      ∧ (h.dispatch (.empty []) "A" []).value.1.status = 0
      ∧ .call 0 [] ∈ (h.dispatch (.empty []) "A" []).notes
      ∧ answered.value.1.code = 413 ∧ answered.notes = [] := by
  intro h request answered
  have hshows : request.shows "key" = true := by decide
  have hpart : Writes ['A'] "A" := ⟨by decide, by decide, by decide⟩
  have hdone : (h.dispatch (.empty []) "A" []).value.1.status = 0 := by decide
  have hcalled : Note.call 0 [] ∈ (h.dispatch (.empty []) "A" []).notes := by decide
  have hlong : maxBody < request.body.length := by
    show maxBody < (utf8 "[]" ++ List.replicate maxBody 0x20).length
    rw [List.length_append, List.length_replicate]
    have htwo : (utf8 "[]").length = 2 := by decide
    omega
  have hanswered : answered = ⟨({ bodyTooLarge with allow := none }, h), []⟩ := by
    show answer _ _ _ request h = _
    rw [answer_refresh (.empty []) h hshows rfl hpart rfl, refresh_of_too_long _ _ h hpart hlong]
    rfl
  refine ⟨hshows, hpart, carries_brackets_blanks maxBody, hdone, hcalled, ?_, ?_⟩
  · rw [hanswered]
    rfl
  · rw [hanswered]

end Warden.Admin
