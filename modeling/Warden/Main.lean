/-
The command line: the client, with a service of its own.

# Contents

The files that the configuration names are read from the machine into a
`FileSystem`, a service is started on them, and the client's invocation
is answered by it in the same process. What the client prints goes to
the standard streams and its code to the caller.
-/
import Warden.Session

namespace Warden

namespace CommandLine

/-- Where the configuration is. -/
def configPath : String := "gatekeeper.toml"

/-- The files that a configuration names. -/
def files (c : Config) : List String :=
  [c.groups.file, c.whitelist.fixedFile, c.whitelist.variableFile, c.password.file].filterMap id

/-- Brings a file from the machine, if it can be read there. -/
def bring (known : FileSystem) (path : String) : IO FileSystem := do
  match ← (IO.FS.readBinFile path).toBaseIO with
  | .ok bytes => return known.write path bytes.toList
  | .error _ => return known

/-- Runs the client with a service on some files. -/
def run (known : FileSystem) (config : Config) (args : List String) : Client.Exit :=
  match (Host.start known (.file configPath) .new).value with
  | (.error e, _) => ⟨1, "", "Error: " ++ e.message ++ "\n"⟩
  | (.ok (_, service), host) =>
    (Client.run .up known config.admin.apiKey service args host).value.1

end CommandLine

end Warden

open Warden CommandLine in
/-- Runs the client in the working directory. -/
def main (args : List String) : IO UInt32 := do
  let known ← bring (.empty []) configPath
  match Config.ofFile known configPath with
  | .error e =>
    IO.eprintln ("Error: " ++ e.message)
    return 1
  | .ok config =>
    let known ← (files config).foldlM bring known
    let exit := run known config args
    IO.print exit.stdout
    IO.eprint exit.stderr
    return exit.code.toUInt32
