/-!
# The registered schemes

Two password-based encryption schemes are known, both with SHA-1 derivation and CBC mode: three-key
triple DES, and RC2 with forty effective key bits. A scheme is found by its exact name or by its exact
object identifier in dotted form; no other spelling counts.
-/

namespace Shroud

/-- A registered scheme. -/
inductive Scheme where
  | tripleDes
  | rc2
  deriving DecidableEq, Repr

namespace Scheme

/-- The registered schemes, in the order in which they are listed. -/
def all : List Scheme := [tripleDes, rc2]

/-- The scheme's name. -/
def name : Scheme → String
  | tripleDes => "pbeWithSHAAnd3-KeyTripleDES-CBC"
  | rc2 => "pbewithSHAAnd40BitRC2-CBC"

/-- The scheme's object identifier. -/
def oid : Scheme → String
  | tripleDes => "1.2.840.113549.1.12.1.3"
  | rc2 => "1.2.840.113549.1.12.1.6"

/-- The constant under which client code writes the scheme. -/
def label : Scheme → String
  | tripleDes => "SHA1_3DES_CBC"
  | rc2 => "SHA1_RC2_40_CBC"

/-- The scheme of exactly this name. -/
def ofName? (s : String) : Option Scheme :=
  all.find? (·.name == s)

/-- The scheme of exactly this object identifier. -/
def ofOid? (s : String) : Option Scheme :=
  all.find? (·.oid == s)

/-- The scheme written by exactly this constant. -/
def ofLabel? (s : String) : Option Scheme :=
  all.find? (·.label == s)

/-- The object identifiers of the registered schemes. -/
def supportedOids : List String :=
  all.map oid

end Scheme

end Shroud
