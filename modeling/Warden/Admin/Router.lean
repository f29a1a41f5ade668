/-
The administrative interface: from a request to its reply.

# Contents

There are four targets (`Target`), each with its method; a target with
the method GET also answers HEAD, without a body. The key is checked
before anything else: without it the reply says nothing but which
methods a target has, and nothing is done.

`answer` is the whole interface. `refresh` is the target that does
something: it runs the refresh command that the path names, with the
arguments from the body. A body that carries none is refused before the
identifier is looked at.
-/
import Warden.Admin.Command
import Warden.Admin.Reply
import Warden.Admin.Request
import Warden.Text.Percent
import Warden.Text.Pieces

namespace Warden.Admin

open Observed Text

-- ================================================================= targets

/-- What a path asks for. A part of the path that may vary is kept as it
is written. -/
inductive Target where
  | status
  | identifiers
  | refresh (identifier : List Char)
  | groups (user : List Char)
deriving DecidableEq, Repr

namespace Target

def admin : List Char := "admin".toList

/-- The target of the parts of a path. -/
def ofParts? : List (List Char) → Option Target
  | [[], root, last] =>
    if root = admin ∧ last = "status".toList then some .status
    else if root = admin ∧ last = "refresh".toList then some .identifiers
    else none
  | [[], root, kind, part] =>
    if root = admin ∧ part ≠ [] then
      if kind = "refresh".toList then some (.refresh part)
      else if kind = "groups".toList then some (.groups part)
      else none
    else none
  | _ => none

/-- The target of a path. -/
def ofPath? (path : String) : Option Target := ofParts? (pieces '/' path.toList)

/-- Whether a target has a method. -/
def has : Target → String → Bool
  | .refresh _, method => method == "POST"
  | _, method => method == "GET" || method == "HEAD"

/-- The methods of a target. -/
def methods : Target → String
  | .refresh _ => "POST"
  | _ => "GET,HEAD"

end Target

/-- Says which methods the target has, if it has not the one used. -/
def allowed (request : Request) : Option String :=
  match Target.ofPath? request.path with
  | none => none
  | some target => if target.has request.method then none else some target.methods

-- ================================================================= replies

/-- The reply about a part of a path that is no text. -/
def notText (part : String) : Reply :=
  .plain 400 ("Invalid URL: Invalid UTF-8 in \x60" ++ part ++ "\x60")

/-- The largest body of a refresh command, in bytes. -/
def maxBody : Nat := 2097152

def bodyTooLarge : Reply :=
  .plain 413 "Failed to buffer the request body: length limit exceeded"

/-- The reply to a body that is no command, with what the parser says. -/
def bodyNotRead (detail : String) : Reply :=
  .json 400 (.response (.failure ("Invalid request body: " ++ detail)))

/-- The arguments in a body; an empty body carries none. -/
def argsIn (body : List UInt8) : Option (List String) :=
  if body.isEmpty then some [] else Command.argsOf? body

/-- The reply that carries a response. -/
def ofResponse (r : Response) : Reply :=
  .json (if r.isSuccess then 200 else if r.unknown then 404 else 500) (.response r)

/-- Runs the refresh command that a part of the path names. -/
def refresh (files : FileSystem) (part : List Char) (body : List UInt8) (detail : String)
    (h : Host) : Observed (Reply × Host) :=
  match percentText? part with
  | none => pure (notText "identifier", h)
  | some identifier =>
    if body.length > maxBody then pure (bodyTooLarge, h)
    else
      match argsIn body with
      | none => pure (bodyNotRead detail, h)
      | some args => do
        let (response, h) ← h.dispatch files identifier args
        pure (ofResponse response, h)

/-- Tells the groups of the user that a part of the path names. -/
def groupsReply (part : List Char) (s : Service) : Reply :=
  match percentText? part with
  | none => notText "user"
  | some user => .json 200 (.groups user (s.groups.groupsOf user).toList)

/-- Does what a target asks for. -/
def serve (files : FileSystem) (s : Service) (target : Target) (request : Request) (h : Host) :
    Observed (Reply × Host) :=
  match target with
  | .status => pure (.json 200 (.status (h.status s)), h)
  | .identifiers => pure (.json 200 (.identifiers h.registry.identifiers), h)
  | .groups user => pure (groupsReply user s, h)
  | .refresh identifier => refresh files identifier request.body request.detail h

/-- Finds what a request asks for, and does it. -/
def route (files : FileSystem) (s : Service) (request : Request) (h : Host) :
    Observed (Reply × Host) :=
  match Target.ofPath? request.path with
  | none => pure (.bare 404, h)
  | some target =>
    if target.has request.method then do
      let (reply, h) ← serve files s target request h
      pure (if request.method = "HEAD" then reply.withoutBody else reply, h)
    else pure (.bare 405, h)

/-- Answers a request for a service whose key is `key`. -/
def answer (files : FileSystem) (key : String) (s : Service) (request : Request) (h : Host) :
    Observed (Reply × Host) := do
  let (reply, h) ←
    if request.shows key then route files s request h
    else do
      log (.rejected request.path)
      pure (.bare 401, h)
  pure ({ reply with allow := allowed request }, h)

end Warden.Admin
