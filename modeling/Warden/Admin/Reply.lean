/-
What the administrative interface answers with.

# Contents

A `Payload` is one of the things that it tells; a `Body` is a payload, a
plain text, or empty. `Body.text` is how a body is sent.
-/
import Warden.Admin.Json
import Warden.Host

namespace Warden.Admin

/-- What is told. -/
inductive Payload where
  | status (s : Status)
  | identifiers (l : List String)
  | response (r : Response)
  | groups (user : String) (names : List String)
deriving DecidableEq, Repr

inductive Body where
  | empty
  | plain (text : String)
  | payload (p : Payload)
deriving DecidableEq, Repr

structure Reply where
  code : Nat
  contentType : Option String
  body : Body
  /-- The methods of the target, where another one was used. -/
  allow : Option String
deriving DecidableEq, Repr

namespace Payload

/-- The members of each object in ascending order of their names. -/
def json : Payload → Json
  | .status s => .object [
      ("fixed_addresses", .number s.fixedAddresses),
      ("group_users", .number s.groupUsers),
      ("password_enabled", .flag s.passwordEnabled),
      ("password_users", .number s.passwordUsers),
      ("refresh_identifiers", .list (s.identifiers.map .text)),
      ("variable_addresses", .number s.variableAddresses),
      ("version", .text s.version),
      ("whitelist_enabled", .flag s.whitelistEnabled)]
  | .identifiers l => .list (l.map .text)
  | .response r => .object [("message", .text r.message), ("status", .number r.status)]
  | .groups user names => .object [("groups", .list (names.map .text)), ("user", .text user)]

end Payload

namespace Body

/-- A body as it is sent. -/
def text : Body → String
  | .empty => ""
  | .plain text => text
  | .payload p => p.json.compact

end Body

namespace Reply

/-- A reply without a body. -/
def bare (code : Nat) : Reply := ⟨code, none, .empty, none⟩

def plain (code : Nat) (text : String) : Reply :=
  ⟨code, some "text/plain; charset=utf-8", .plain text, none⟩

def json (code : Nat) (p : Payload) : Reply := ⟨code, some "application/json", .payload p, none⟩

/-- The reply without its body. -/
def withoutBody (r : Reply) : Reply := { r with body := .empty }

end Reply

end Warden.Admin
