/-
The command line of the client: which arguments are an invocation.

# Contents

Options stand before the subcommand: the address of the interface, which
has a default, and the key, which must be given. Each may be given once,
as `--key value`, `--key=value`, `-k value`, `-kvalue` or `-k=value`. An
argument that starts with a hyphen and has more is never a value, except
after a `--`, which ends the options of a subcommand.

Asking for help ends the reading there; so does the first argument that
does not fit.
-/

namespace Warden.Client

/-- What the client is asked to do. -/
inductive Command where
  | status
  | identifiers
  | refresh (identifier : String) (args : List String)
  | groups (user : String)
deriving DecidableEq, Repr

/-- The address that the client uses if it is told none. -/
def defaultUrl : String := "http://127.0.0.1:8181"

structure Invocation where
  url : String
  key : String
  command : Command
deriving DecidableEq, Repr

/-- Why there is no invocation. -/
inductive Misuse where
  | wrong
  | helpAsked
deriving DecidableEq, Repr

-- =============================================================== arguments

/-- What kind of argument a text is. -/
inductive Argument where
  | word
  /-- Two hyphens alone. -/
  | endOfOptions
  /-- A name after two hyphens, perhaps with a value after an equals sign. -/
  | long (name : List Char) (value : Option (List Char))
  /-- A letter after a hyphen, and what follows it at once. -/
  | short (letter : Char) (rest : List Char)
deriving DecidableEq, Repr

def Argument.of (s : String) : Argument :=
  match s.toList with
  | '-' :: '-' :: [] => .endOfOptions
  | '-' :: '-' :: r =>
    let name := r.takeWhile (· ≠ '=')
    match r.dropWhile (· ≠ '=') with
    | _ :: value => .long name (some value)
    | [] => .long name none
  | '-' :: c :: r => .short c r
  | _ => .word

/-- Whether an argument asks for help. -/
def Argument.asksHelp : Argument → Bool
  | .long name none => name == "help".toList
  | .short c _ => c == 'h'
  | _ => false

-- ================================================================= options

/-- The options of the client. -/
inductive Setting where
  | url
  | key
deriving DecidableEq, Repr

/-- The option that an argument names, and its value if it holds one. -/
def Setting.of? : Argument → Option (Setting × Option String)
  | .long name value =>
    let value := value.map String.ofList
    if name = "url".toList then some (.url, value)
    else if name = "key".toList then some (.key, value)
    else none
  | .short c rest =>
    let value := match rest with
      | [] => none
      | '=' :: r => some (String.ofList r)
      | r => some (String.ofList r)
    if c = 'u' then some (.url, value) else if c = 'k' then some (.key, value) else none
  | _ => none

/-- The options that were given. -/
structure Settings where
  url : Option String := none
  key : Option String := none
deriving DecidableEq, Repr

/-- Sets an option that is not set. -/
def Settings.set (s : Settings) (setting : Setting) (value : String) :
    Except Misuse Settings :=
  match setting with
  | .url => if s.url.isSome then .error .wrong else .ok { s with url := some value }
  | .key => if s.key.isSome then .error .wrong else .ok { s with key := some value }

-- ============================================================= subcommands

/-- The values of a subcommand that takes at most `limit` of them. -/
def values (limit : Option Nat) : List String → Except Misuse (List String)
  | [] => .ok []
  | a :: r =>
    match Argument.of a with
    | .word =>
      match limit with
      | none => (values none r).map (a :: ·)
      | some 0 => .error .wrong
      | some (n + 1) => (values (some n) r).map (a :: ·)
    | .endOfOptions =>
      match limit with
      | none => .ok r
      | some n => if r.length ≤ n then .ok r else .error .wrong
    | argument => .error (if argument.asksHelp then .helpAsked else .wrong)

def subcommands : List String := ["status", "identifiers", "refresh", "groups", "help"]

/-- The command of a subcommand with its arguments. -/
def Command.of (name : String) (args : List String) : Except Misuse Command :=
  match name with
  | "status" => (values (some 0) args).map fun _ => .status
  | "identifiers" => (values (some 0) args).map fun _ => .identifiers
  | "refresh" => do
    match ← values none args with
    | identifier :: rest => .ok (.refresh identifier rest)
    | [] => .error .wrong
  | "groups" => do
    match ← values (some 1) args with
    | [user] => .ok (.groups user)
    | _ => .error .wrong
  | "help" =>
    match args with
    | [] => .error .helpAsked
    | [about] => .error (if subcommands.contains about then .helpAsked else .wrong)
    | _ => .error .wrong
  | _ => .error .wrong

-- ============================================================= invocations

/-- The invocation of options with a subcommand. The key is looked for
last. -/
def Settings.invoke (s : Settings) (name : String) (args : List String) :
    Except Misuse Invocation := do
  let command ← Command.of name args
  match s.key with
  | none => .error .wrong
  | some key => .ok ⟨s.url.getD defaultUrl, key, command⟩

/-- Reads options up to the subcommand. -/
def read (s : Settings) : List String → Except Misuse Invocation
  | [] => .error .wrong
  | a :: r =>
    match Argument.of a with
    | .word => s.invoke a r
    | .endOfOptions => .error .wrong
    | argument =>
      if argument.asksHelp then .error .helpAsked
      else
        match Setting.of? argument with
        | none => .error .wrong
        | some (setting, some value) => do
          let s ← s.set setting value
          read s r
        | some (setting, none) =>
          match r with
          | [] => .error .wrong
          | value :: r =>
            if Argument.of value = .word then do
              let s ← s.set setting value
              read s r
            else .error .wrong

/-- The invocation that arguments write. -/
def Invocation.of (args : List String) : Except Misuse Invocation := read {} args

end Warden.Client
