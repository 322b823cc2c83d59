import PoolPlan.Bytes.Hex
import PoolPlan.Bytes.Sha256
import PoolPlan.Bytes.Utf8
import PoolPlan.Class.Spec
import PoolPlan.Version

namespace PoolPlan.ClassSpec

/-- What is hashed: the version, a zero byte, which no version holds, and the text of the fields. -/
def hashedBytes (spec : ClassSpec) (version : VersionMarker) : Bytes :=
  Utf8.encode version.text ++ 0 :: Utf8.encode (spec.erase nameField).canonicalText

def fingerprintLength : Nat := 8

/-- Machines are replaced when the fingerprint of their class changes. -/
def fingerprint (spec : ClassSpec) (version : VersionMarker) : String :=
  String.ofList (Hex.encode ((Sha256.digest (spec.hashedBytes version)).take fingerprintLength))

end PoolPlan.ClassSpec
