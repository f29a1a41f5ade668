/-
Password digests: which algorithms there are, and how a digest is written.

# Contents

`Algorithm.ofName?` finds an algorithm by its configured name, blanks
around it and the case of ASCII letters aside. `Algorithm.hexDigest`
writes the digest of a text's UTF-8 bytes in lower case hexadecimal.
-/
import Warden.Digest.Md5
import Warden.Text.Blank
import Warden.Text.Quoted
import Warden.Text.Utf8

namespace Warden

open Text

/-- The supported digest algorithms. -/
inductive Algorithm where
  | md5
deriving DecidableEq, Repr

/-- No algorithm has the configured name. -/
structure DigestUnavailable where
  name : String
deriving DecidableEq, Repr

def DigestUnavailable.message (e : DigestUnavailable) : String :=
  "digest algorithm " ++ quoted e.name ++ " unavailable"

namespace Algorithm

/-- The algorithm of a configured name. -/
def ofName? (name : String) : Except DigestUnavailable Algorithm :=
  if (trim name.toList).map Char.toLower = "md5".toList then .ok .md5 else .error ⟨name⟩

/-- The digest bytes of a message. -/
def digest : Algorithm → List UInt8 → List UInt8
  | .md5 => Digest.Md5.digest

/-- The digest of a text, in lower case hexadecimal. -/
def hexDigest (algorithm : Algorithm) (input : String) : String :=
  String.ofList ((algorithm.digest (utf8 input)).flatMap hexByte)

end Algorithm

end Warden
