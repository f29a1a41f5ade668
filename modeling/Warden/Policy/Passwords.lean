/-
Passwords of users.

# Contents

While checking is off every password is right. Otherwise the user needs
an entry; an entry may waive the check; else it needs a digest, and the
password given must have that digest (`judge`). The digest algorithm is
fixed when the policy is made.

# Publication

Switching checking off also forgets all entries, so that switching it on
again denies everybody until a load succeeds. The switch is published
before the entries; `Passwords.Publication` is one step of a reload.
-/
import Warden.Config.Basic
import Warden.Dataset.Load
import Warden.Digest
import Warden.Slot
import Std.Data.TreeMap

namespace Warden

open Observed

/-- Why a password is refused. -/
inductive PasswordDenied where
  | unknownUser (user : String)
  /-- The user has no password yet. -/
  | notSet (user : String)
  /-- No password was given. -/
  | notSupplied (user : String)
  | incorrect (user : String)
deriving DecidableEq, Repr

namespace PasswordDenied

def user : PasswordDenied → String
  | unknownUser user | notSet user | notSupplied user | incorrect user => user

def reason : PasswordDenied → String
  | unknownUser _ => "user not recognized"
  | notSet _ => "no password configured for user"
  | notSupplied _ => "no password supplied"
  | incorrect _ => "password incorrect"

def message (e : PasswordDenied) : String := e.user ++ ": " ++ e.reason

end PasswordDenied

/-- What is known of a user's password. -/
structure Credential where
  /-- The digest, if a password is set. -/
  digest : Option String
  /-- Whether the password is checked at all. -/
  enabled : Bool
deriving DecidableEq, Repr

namespace Credential

/-- A digest field is no digest if it is empty or ends in this. -/
def noDigest : String := "null"

/-- The credential that two fields of a line write. -/
def ofFields (digest enabled : String) : Credential where
  digest :=
    if digest = "" || noDigest.toList.isSuffixOf digest.toList then none else some digest
  enabled := enabled.toList.map Char.toLower == "true".toList

end Credential

/-- The credentials of all users. -/
abbrev Credentials := Std.TreeMap String Credential

/-- The credentials of a file's records; the last line of a user counts. -/
def Credentials.ofRecords (records : List Record) : Credentials :=
  records.foldl
    (fun users record => match record.values with
      | [digest, enabled] => users.insert record.key (.ofFields digest enabled)
      | _ => users)
    ∅

/-- The switch, the entries, and the digest algorithm. -/
structure Passwords where
  enabled : Bool
  algorithm : Algorithm
  published : Slot Credentials

namespace Passwords

/-- Checking is off, and there is no entry. -/
def new (algorithm : Algorithm) : Passwords := ⟨false, algorithm, .empty⟩

-- ================================================================ checks

/-- The decision, from the switch and the entries as they were read. -/
def judge (algorithm : Algorithm) (enabled : Bool) (users : Credentials) (user : String)
    (password : Option String) : Except PasswordDenied Unit :=
  if !enabled then .ok ()
  else
    match users[user]? with
    | none => .error (.unknownUser user)
    | some entry =>
      if !entry.enabled then .ok ()
      else
        match entry.digest with
        | none => .error (.notSet user)
        | some stored =>
          match password with
          | none => .error (.notSupplied user)
          | some supplied =>
            if supplied = "" then .error (.notSupplied user)
            else if algorithm.hexDigest supplied = stored then .ok ()
            else .error (.incorrect user)

/-- Whether a password is the user's. -/
def check (p : Passwords) (user : String) (password : Option String) :
    Except PasswordDenied Unit :=
  judge p.algorithm p.enabled p.published.current user password

-- =============================================================== reloads

/-- One step of a reload that readers can see. -/
inductive Publication where
  | enabled (on : Bool)
  | cleared
  | entries (users : Credentials)

/-- Takes one step. -/
def publish (p : Passwords) : Publication → Passwords
  | .enabled on => { p with enabled := on }
  | .cleared => { p with published := p.published.clear }
  | .entries users => { p with published := (p.published.replace users).2 }

/-- Reads the entries of the configured file. -/
def load (config : PasswordConfig) (files : FileSystem) :
    Observed (Except LoadError Credentials) := do
  match ← Dataset.passwords.load files config.file with
  | .error e => pure (.error e)
  | .ok (path, contents) =>
    let users := Credentials.ofRecords contents.records
    Dataset.passwords.reportLoaded path users.size
    pure (.ok users)

/-- The steps of a reload with checking on, after what was loaded. -/
def publications (result : Except LoadError Credentials) : List Publication :=
  .enabled true :: (match result with | .ok users => [.entries users] | .error _ => [])

/-- Sets the switch, and publishes the entries or forgets them. -/
def reload (config : PasswordConfig) (files : FileSystem) (p : Passwords) :
    Observed (Except ReloadError Unit × Passwords) := do
  log (.passwordsConfigured config.enabled)
  if config.enabled then do
    let result ← load config files
    Dataset.passwords.reportReload result
    let p := (publications result).foldl publish p
    match result with
    | .ok _ => pure (.ok (), p)
    | .error e => pure (.error ⟨[e]⟩, p)
  else do
    count (.published .passwords 0)
    pure (.ok (), [Publication.enabled false, .cleared].foldl publish p)

end Passwords

end Warden
