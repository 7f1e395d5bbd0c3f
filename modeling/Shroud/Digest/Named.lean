import Shroud.Digest.Sha1
import Shroud.Digest.Sha256

/-!
# Digests by name

The digests that derivation can be driven by. A name stands for a digest only in this exact spelling.
-/

namespace Shroud.Digest

/-- The digest of a name. -/
def named? : String → Option Digest
  | "sha1" => some sha1
  | "sha256" => some sha256
  | _ => none

end Shroud.Digest
