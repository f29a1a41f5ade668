/-
The client between its user and an interface on the same machine.

# Three ways through

What is asked for goes through three hands. The command line gives it to
the client, which reads the command that was asked for (`of_asks`). The
key goes in a header, which keeps it if it is `Sent`. The name goes in an
address, which takes it for a name (`TakenFor`), for the same one if it is
`Carried`, and the arguments go in a body, which keeps all of them
(`carries_written`). Beyond that only the lengths of address and body
matter.

# What comes back

Then a question about a user prints the groups of whom the address names
(`run_groups`), and a refresh command is the dispatch of the identifier
that the address names (`run_refresh`), whose response is printed
(`Exit.ofResponse`). Nothing else is done or noted on the way. So the
client is transparent for carried names (`client_is_transparent`), and for
the others it answers about somebody else (`others_are_asked_for`).
-/
import Warden.Proofs.Admin.Body
import Warden.Proofs.Admin.Keys
import Warden.Proofs.Client.Address
import Warden.Proofs.Client.Usage
import Warden.Proofs.Host.Accounting
import Warden.Proofs.Policy.Membership
import Warden.Proofs.Text.ByteOrder

namespace Warden.Client

open Text Admin

-- ================================================================= the key

/-- A key that a header holds, and keeps as it is. -/
structure Sent (key : String) : Prop where
  legible : ∀ c ∈ key.toList, Legible c
  last : ∃ c, key.toList.getLast? = some c ∧ c ≠ ' ' ∧ c ≠ '\t'

/-- A value with no blank at its ends is not trimmed. -/
theorem trimmedValue_eq_self {value : List UInt8} (hne : value ≠ [])
    (hfirst : isHeaderBlank (value.head hne) = false)
    (hlast : isHeaderBlank (value.getLast hne) = false) : trimmedValue value = value := by
  have hstart : value.dropWhile isHeaderBlank = value := by
    rw [List.dropWhile_eq_self_iff]
    intro _
    rw [List.getElem_zero_eq_head, hfirst]
    decide
  rw [trimmedValue, hstart]
  show value.rdropWhile isHeaderBlank = value
  rw [List.rdropWhile_eq_self_iff]
  intro _
  rw [hlast]
  decide

variable {key : String}

/-- A header may hold the key. -/
theorem Sent.maySend (hkey : Sent key) : maySend key = true :=
  List.all_eq_true.mpr ((forall_isVisible_iff key).mpr hkey.legible)

/-- A header keeps the key as it is, behind the scheme. -/
theorem Sent.trimmedValue_eq_self (hkey : Sent key) :
    trimmedValue (Request.bearer ++ utf8 key) = Request.bearer ++ utf8 key := by
  obtain ⟨c, hlast, hblank, htab⟩ := hkey.last
  obtain ⟨before, hchars⟩ := List.getLast?_eq_some_iff.mp hlast
  have hlegible : Legible c := hkey.legible c (hchars ▸ List.mem_append_right _ List.mem_cons_self)
  have hc : c.toNat < 128 := by
    by_contra hhigh
    exact not_legible_of_high (by omega) hlegible
  have hend : utf8 key = before.flatMap String.utf8EncodeChar ++ [UInt8.ofNat c.toNat] := by
    rw [utf8, hchars, List.flatMap_append, List.flatMap_singleton,
      utf8EncodeChar_of_ascii hc]
  have hnot : isHeaderBlank (UInt8.ofNat c.toNat) = false := by
    have hascii : c ≠ ' ' → c ≠ '\t' → isHeaderBlank (UInt8.ofNat c.toNat) = false :=
      of_ascii hc (by decide)
    exact hascii hblank htab
  refine Client.trimmedValue_eq_self (by simp [hend]) (by rfl) ?_
  rw [← hnot]
  congr 1
  simp [hend]

-- ============================================================ the requests

/-- Where an interface on this machine is; a port is left out if it is the
usual one. -/
def loopback (port : UInt16) : String :=
  "http://127.0.0.1" ++ if port = 80 then "" else ":" ++ toString port.toNat

/-- The address of a command is not too long. -/
def Addressable (url : String) (c : Command) : Prop :=
  addressLength url c.path.toList ≤ Uri.maxLength

instance (url : String) (c : Command) : Decidable (Addressable url c) :=
  inferInstanceAs (Decidable (_ ≤ _))

/-- The request for a command, as the other side gets it. -/
def requestOf (key : String) (c : Command) : Request where
  method := c.method
  path := String.ofList (requested c.path.toList)
  headers := [⟨Request.keyHeader, Request.bearer ++ utf8 key⟩]
  body := c.body

@[simp] theorem body_requestOf (c : Command) : (requestOf key c).body = c.body := rfl

@[simp] theorem detail_requestOf (c : Command) : (requestOf key c).detail = "" := rfl

/-- A key that a header keeps and an address that is short enough are
sent. -/
theorem request?_eq_some (hkey : Sent key) {url : String} {c : Command}
    (haddress : Addressable url c) :
    Invocation.request? ⟨url, key, c⟩ = some (requestOf key c) := by
  have hlength : addressLength url c.path.toList ≤ Uri.maxLength := haddress
  simp only [Invocation.request?, hkey.maySend, hkey.trimmedValue_eq_self, hlength]
  rfl

/-- A request whose address is too long is not sent. -/
theorem request?_eq_none {url : String} {c : Command} (hlong : ¬ Addressable url c) :
    Invocation.request? ⟨url, key, c⟩ = none := by
  have hlength : ¬ addressLength url c.path.toList ≤ Uri.maxLength := hlong
  simp [Invocation.request?, hlength]

/-- A request of the client shows the key that it was given. -/
theorem shows_requestOf (hkey : Sent key) (c : Command) : (requestOf key c).shows key = true :=
  Request.shows_iff.mpr
    ⟨⟨[], [], rfl, fun _ h => absurd h List.not_mem_nil⟩,
      (forall_isVisible_iff key).mpr hkey.legible⟩

/-- What is kept of a name arrives as the last part of the path. -/
theorem path_requestOf (subject front : String)
    (hsubject : subject.toList ∈ ["groups".toList, "refresh".toList])
    (hfront : "/admin/" ++ subject ++ "/" = front) {c : Command} {written name : String}
    (hpath : c.path = front ++ written) (htaken : TakenFor written name) :
    (requestOf key c).path = front ++ String.ofList (encoded (kept written.toList)) := by
  have hchars : c.path.toList = frontOf subject.toList ++ written.toList := by
    rw [frontOf_eq, hfront, hpath, String.toList_append]
  rw [requestOf, hchars, requested_part hsubject htaken, frontOf_eq, hfront]
  exact String.toList_inj.mp (by simp)

theorem path_requestOf_groups {written user : String} (huser : TakenFor written user) :
    (requestOf key (.groups written)).path
      = "/admin/groups/" ++ String.ofList (encoded (kept written.toList)) :=
  path_requestOf "groups" _ (by decide) (by decide) rfl huser

theorem path_requestOf_refresh {written identifier : String}
    (hidentifier : TakenFor written identifier) (args : List String) :
    (requestOf key (.refresh written args)).path
      = "/admin/refresh/" ++ String.ofList (encoded (kept written.toList)) :=
  path_requestOf "refresh" _ (by decide) (by decide) rfl hidentifier

-- ================================================================ the runs

variable (files : FileSystem) (s : Service) (h : Host) {url : String}

/-- A question about a user prints the groups of whom the address names. -/
theorem run_groups (hkey : Sent key) {written user : String} (huser : TakenFor written user)
    (haddress : Addressable url (.groups written)) :
    Invocation.run files key s ⟨url, key, .groups written⟩ h
      = pure (⟨0, (Payload.groups user (s.groups.groupsOf user).toList).json.pretty ++ "\n", ""⟩,
          h) := by
  have hpart := huser.writes
  have htarget : Target.ofPath? (requestOf key (.groups written)).path
      = some (.groups (encoded (kept written.toList))) := by
    rw [path_requestOf_groups huser, ofPath?_groups hpart]
  unfold Invocation.run
  rw [request?_eq_some hkey haddress]
  dsimp only
  rw [answer_of_shows files s h (shows_requestOf hkey _) htarget
    (by decide : "GET" ≠ "HEAD") rfl]
  simp [serve, groupsReply, hpart.reads, Reply.json, shown, printed]

/-- A refresh command is what the interface does with the identifier that
the address names and the arguments. -/
theorem run_refresh_eq (hkey : Sent key) {written identifier : String} {args : List String}
    (hidentifier : TakenFor written identifier)
    (haddress : Addressable url (.refresh written args)) :
    Invocation.run files key s ⟨url, key, .refresh written args⟩ h
      = (fun served => (shown { served.1 with allow := none }, served.2))
          <$> refresh files (encoded (kept written.toList)) (Command.refresh written args).body
            "" h := by
  unfold Invocation.run
  rw [request?_eq_some hkey haddress]
  dsimp only
  rw [answer_refresh files h (shows_requestOf hkey (.refresh written args)) rfl
    hidentifier.writes (path_requestOf_refresh hidentifier args), bind_map_left, body_requestOf,
    detail_requestOf]
  -- What the interface does is not looked into.
  generalize refresh files (encoded (kept written.toList)) _ "" h = served
  rfl

/-- How the client ends after a refresh command that something is
registered for. -/
def Exit.ofResponse (r : Response) : Exit :=
  let printed := (Payload.response r).json.pretty ++ "\n"
  if r.status = 0 then ⟨0, printed, ""⟩
  else ⟨1, printed, "Error: Admin API returned status 500 Internal Server Error\n"⟩

/-- A response is printed, and ends the client by its status. -/
theorem shown_ofResponse {r : Response} (hknown : r.unknown = false) (allow : Option String) :
    shown { Admin.ofResponse r with allow } = .ofResponse r := by
  by_cases hstatus : r.status = 0
  · simp [shown, Admin.ofResponse, Response.isSuccess, hstatus, Reply.json, printed,
      Exit.ofResponse]
  · simp [shown, Admin.ofResponse, Response.isSuccess, hstatus, hknown, Reply.json, printed,
      Exit.ofResponse, codeName]

/-- A refresh command runs what is registered for the identifier that the
address names, and prints its response. -/
theorem run_refresh (hkey : Sent key) {written identifier : String} {args : List String}
    (hidentifier : TakenFor written identifier)
    (haddress : Addressable url (.refresh written args))
    (hlength : (Command.refresh written args).body.length ≤ maxBody)
    {handler : Handler} (hsome : h.handler? identifier = some handler) :
    let ran := Host.run files handler args h.world
    let response := Response.ofOutcome ran.value.1
    Invocation.run files key s ⟨url, key, .refresh written args⟩ h
      = ⟨(.ofResponse response, { h with world := ran.value.2 }),
          .event (.refreshStarted identifier args)
            :: (ran.notes ++ (Registry.remarks identifier ran.value.1
              ++ [.event (.refreshFinished identifier response.status),
                .measure (.refreshed (some identifier) response.status)]))⟩ := by
  intro ran response
  have hknown : response.unknown = false := (Response.status_ofOutcome ran.value.1).2.2
  have hcarries : Carries (Command.refresh written args).body args :=
    Admin.Command.carries_written args
  rw [run_refresh_eq files s h hkey hidentifier haddress,
    refresh_of_carries files "" h hidentifier.writes hlength hcarries, Functor.map_map]
  refine Observed.ext ?_ ?_
  · rw [Observed.value_map, Host.dispatch_of_handler?_eq_some files args hsome,
      shown_ofResponse hknown]
  · rw [Observed.notes_map]
    exact Host.notes_dispatch_of_handler?_eq_some files args hsome

/-- Arguments that are too long for a body are refused. -/
theorem run_refresh_of_too_long (hkey : Sent key) {written identifier : String}
    {args : List String} (hidentifier : TakenFor written identifier)
    (haddress : Addressable url (.refresh written args))
    (hlength : maxBody < (Command.refresh written args).body.length) :
    Invocation.run files key s ⟨url, key, .refresh written args⟩ h
      = pure (⟨1, "Failed to buffer the request body: length limit exceeded\n",
          "Error: Admin API returned status 413 Payload Too Large\n"⟩, h) := by
  rw [run_refresh_eq files s h hkey hidentifier haddress,
    refresh_of_too_long files "" h hidentifier.writes hlength]
  rfl

-- ============================================================ command lines

/-- A command line that asks for a command runs it. -/
theorem run_of_asks {c : Command} {line : List String} (hline : Asks c line) :
    run .up files key s (options url key ++ line) h
      = Invocation.run files key s ⟨url, key, c⟩ h := by
  rw [run, of_asks hline]

/-- The client against a service of the same key. A question about a user
prints all groups of that user and no others, in the order of their bytes,
and leaves everything as it is. A refresh command runs what is registered
under its identifier, once and with its arguments, and prints the
response. If that is a callback, it is the only one that runs, and it
decides the response; if it is a service's own handler, no callback runs,
and the one policy is refreshed. Commands that are too long, in their
address or in their body, come to nothing but an error. -/
theorem client_is_transparent (files : FileSystem) (s : Service) (h : Host) (port : UInt16)
    (hkey : Sent key) :
    let url := loopback port
    let ask (line : List String) := run .up files key s (options url key ++ line) h
    (∀ user line, Carried user → Addressable url (.groups user) → Asks (.groups user) line →
        ∃ names, ByteAscending names ∧ (∀ name, name ∈ names ↔ name ∈ s.groups.groupsOf user)
          ∧ ask line = pure (⟨0, (Json.object
              [("groups", .list (names.map .text)), ("user", .text user)]).pretty ++ "\n", ""⟩, h))
      ∧ (∀ identifier args handler line, Carried identifier →
          Addressable url (.refresh identifier args) →
          (Command.refresh identifier args).body.length ≤ maxBody →
          h.handler? identifier = some handler → Asks (.refresh identifier args) line →
            let ran := Host.run files handler args h.world
            let response := Response.ofOutcome ran.value.1
            ask line = ⟨(.ofResponse response, { h with world := ran.value.2 }),
                .event (.refreshStarted identifier args)
                  :: (ran.notes ++ (Registry.remarks identifier ran.value.1
                    ++ [.event (.refreshFinished identifier response.status),
                      .measure (.refreshed (some identifier) response.status)]))⟩
              ∧ callsOf (ask line).notes = handler.calls args
              ∧ (∀ number behaviour, handler = .foreign number behaviour →
                (ask line).value
                  = (.ofResponse (.ofOutcome (behaviour ⟨args, h.world.ran number⟩)),
                      { h with world := h.world.call number args }))
              ∧ ∀ number p t, handler = .own number p → h.service? number = some t →
                (ask line).value = (.ofResponse (.ofOutcome (t.refresh files p).value.1),
                  h.withService number (t.refresh files p).value.2))
      ∧ (∀ identifier args line, Carried identifier → Addressable url (.refresh identifier args) →
          maxBody < (Command.refresh identifier args).body.length →
          Asks (.refresh identifier args) line →
            ask line = pure (⟨1, "Failed to buffer the request body: length limit exceeded\n",
              "Error: Admin API returned status 413 Payload Too Large\n"⟩, h))
      ∧ ∀ c line, ¬ Addressable url c → Asks c line → ask line = pure (.silent 1, h) := by
  intro url ask
  have hasked {c : Command} {line : List String} (hline : Asks c line) :
      ask line = Invocation.run files key s ⟨url, key, c⟩ h := run_of_asks files s h hline
  refine ⟨?_, ?_, ?_, ?_⟩
  · intro user line huser haddress hline
    refine ⟨(s.groups.groupsOf user).toList, byteAscending_toList _,
      fun name => Std.TreeSet.mem_toList, ?_⟩
    rw [hasked hline, run_groups files s h hkey huser.takenFor haddress]
    rfl
  · intro identifier args handler line hidentifier haddress hlength hsome hline ran response
    have hran : ask line = _ :=
      (hasked hline).trans (run_refresh files s h hkey hidentifier.takenFor haddress hlength hsome)
    refine ⟨hran, ?_, ?_, ?_⟩
    · rw [← Host.callsOf_dispatch files args hsome, hran,
        Host.notes_dispatch_of_handler?_eq_some files args hsome]
    · rintro number behaviour rfl
      rw [hran]
      rfl
    · rintro number p t rfl hservice
      have ht : h.world.services[number]? = some t := hservice
      rw [hran]
      simp [Host.run, ht, Host.withService]
  · intro identifier args line hidentifier haddress hlength hline
    rw [hasked hline, run_refresh_of_too_long files s h hkey hidentifier.takenFor haddress hlength]
  · intro c line hlong hline
    rw [hasked hline, Invocation.run, request?_eq_none hlong]

/-- A name of two words and a letter beyond ASCII, and a callback that
breaks off, with arguments behind two hyphens. -/
theorem client_is_transparent_marked :
    let s : Service := { Service.new (.fixed {}) .md5 with groups := .ofText "ann é=ops,dev\n" }
    let h := (Host.new.register "A b" 3 fun _ => .panicked none).value
    let ask (line : List String) :=
      run .up (.empty []) "key" s (options (loopback 8181) "key" ++ line) h
    Sent "key"
      ∧ (∃ names, ByteAscending names ∧ "dev" ∈ names ∧ "web" ∉ names
        ∧ ask ["groups", "ann é"] = pure (⟨0, (Json.object
            [("groups", .list (names.map .text)), ("user", .text "ann é")]).pretty ++ "\n", ""⟩, h))
      ∧ (ask ["refresh", "A b", "--", "-x", ""]).value.1
        = .ofResponse (.failure "Refresh failed: handler panicked")
      ∧ callsOf (ask ["refresh", "A b", "--", "-x", ""]).notes = [(3, ["-x", ""])] := by
  intro s h ask
  have hkey : Sent "key" :=
    ⟨List.all_iff_forall_prop.mp (by decide), 'y', by decide, by decide, by decide⟩
  have hescape (name : String) (hname : '%' ∉ name.toList) (before : List Char)
      (high low : Char) (rest : List Char)
      (heq : name.toList = before ++ '%' :: high :: low :: rest) : byteOfHex? high low = none :=
    absurd (heq ▸ List.mem_append_right _ List.mem_cons_self) hname
  have huser : Carried "ann é" :=
    ⟨by decide, List.all_iff_forall_prop.mp (by decide), fun _ hc => by cases hc; rfl, by decide,
      by decide, hescape _ (by decide)⟩
  have hidentifier : Carried "A b" :=
    ⟨by decide, List.all_iff_forall_prop.mp (by decide), fun _ hc => by cases hc; rfl, by decide,
      by decide, hescape _ (by decide)⟩
  obtain ⟨hgroups, hrefresh, -⟩ := client_is_transparent (.empty []) s h 8181 hkey
  obtain ⟨names, hascending, hnames, hasked⟩ := hgroups "ann é" ["groups", "ann é"] huser
    (by decide +kernel) (.groups (.word (by decide) .nil))
  obtain ⟨-, hcalls, hforeign, -⟩ := hrefresh "A b" ["-x", ""] _
    ["refresh", "A b", "--", "-x", ""] hidentifier (by decide +kernel) (by decide +kernel) rfl
    (.refresh (.word (by decide) (.marked _)))
  have hvalue := hforeign 3 _ rfl
  refine ⟨hkey, ⟨names, hascending, (hnames "dev").mpr (by decide +kernel), fun hweb => ?_, hasked⟩,
    congrArg Prod.fst hvalue, hcalls⟩
  have hnot : "web" ∉ s.groups.groupsOf "ann é" := by decide +kernel
  exact hnot ((hnames "web").mp hweb)

/-- Words, keys and names that do not come through. A word with a hyphen
in front is taken for an option. A header drops a blank at its end, and no
key is empty. A name that is empty or dots is no part of a path, so nobody
is asked for. -/
theorem names_lost_on_the_way :
    let s : Service := { Service.new (.fixed {}) .md5 with
      groups := .ofText "-bob=g\n.=g\n..=g\na=g\n" }
    let h : Host := ["A", ""].zipIdx.foldl
      (fun h entry => (h.register entry.1 entry.2 fun _ => .done).value) .new
    let ask (key : String) (line : List String) :=
      run .up (.empty []) key s (options (loopback 8181) key ++ line) h
    let refused (code : String) : Exit :=
      ⟨1, "", "Error: Admin API returned status " ++ code ++ "\n"⟩
    (∀ user ∈ ["-bob", ".", "..", "a"], s.groups.hasGroup user "g" = true)
      ∧ h.registry.identifiers = ["", "A"]
      ∧ (ask "key" ["groups", "-bob"]).value.1 = .silent 2
      ∧ (ask "key" ["refresh", "A", "-x"]).value.1 = .silent 2
      ∧ (ask "key" ["refresh", "A", "-x"]).notes = []
      ∧ (∀ user ∈ [".", ".."], (ask "key" ["groups", user]).value.1 = refused "404 Not Found")
      ∧ callsOf (ask "key" ["refresh", "", "x"]).notes = []
      ∧ ∀ key ∈ ["", "key "], (ask key ["groups", "a"]).value.1 = refused "401 Unauthorized" := by
  refine ⟨?_, ?_, ?_, ?_, ?_, ?_, ?_, ?_⟩
  all_goals decide +kernel

/-- A name goes into the address as it is, and the address may take it for
another one. Then the client asks about that one: its groups are printed,
and what is registered for it is what runs. -/
theorem others_are_asked_for (files : FileSystem) (s : Service) (h : Host) (port : UInt16)
    (hkey : Sent key) :
    let url := loopback port
    let ask (line : List String) := run .up files key s (options url key ++ line) h
    (∀ written user line, TakenFor written user → Addressable url (.groups written) →
        Asks (.groups written) line →
          ask line = pure (⟨0, (Payload.groups user (s.groups.groupsOf user).toList).json.pretty
            ++ "\n", ""⟩, h))
      ∧ ∀ written identifier args handler line, TakenFor written identifier →
          Addressable url (.refresh written args) →
          (Command.refresh written args).body.length ≤ maxBody →
          h.handler? identifier = some handler → Asks (.refresh written args) line →
            callsOf (ask line).notes = handler.calls args
              ∧ (ask line).value.1
                = .ofResponse (.ofOutcome (Host.run files handler args h.world).value.1) := by
  intro url ask
  have hasked {c : Command} {line : List String} (hline : Asks c line) :
      ask line = Invocation.run files key s ⟨url, key, c⟩ h := run_of_asks files s h hline
  refine ⟨?_, ?_⟩
  · intro written user line huser haddress hline
    rw [hasked hline, run_groups files s h hkey huser haddress]
  · intro written identifier args handler line hidentifier haddress hlength hsome hline
    rw [hasked hline, run_refresh files s h hkey hidentifier haddress hlength hsome,
      ← Host.callsOf_dispatch files args hsome,
      Host.notes_dispatch_of_handler?_eq_some files args hsome]
    exact ⟨rfl, rfl⟩

/-- A mark ends a name (`Carried.takenFor_of_mark`), a tab in it and a
control character at its end are dropped, and what looks like an encoded
character is decoded. -/
example : TakenFor "a?b" "a" ∧ TakenFor "a#b" "a" ∧ TakenFor "a\x01" "a" ∧ TakenFor "a\tb" "ab"
    ∧ TakenFor "a%62" "ab" := by
  decide +kernel

/-- With a slash in it, either way round, a name is taken for no name. -/
example : ∀ user ∈ ["a/b", "a\\b"],
    (run .up (.empty []) "key"
        { Service.new (.fixed {}) .md5 with groups := .ofText "a/b=g\na\\b=g\n" }
        (options (loopback 8181) "key" ++ ["groups", user]) .new).value.1
      = ⟨1, "", "Error: Admin API returned status 404 Not Found\n"⟩ := by
  decide +kernel

end Warden.Client
