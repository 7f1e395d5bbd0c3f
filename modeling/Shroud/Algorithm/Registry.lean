import Shroud.Algorithm.Form
import Shroud.Decimal.Integer

/-!
# Known algorithms

The encryption algorithms that are known by a name, with their object identifiers and the form of their
parameters. `Registry.oidOfName?` finds the identifier that a name stands for, `Registry.parameterForm` what
an algorithm of a family prescribes. Algorithms that are not known may have any parameters.
-/

namespace Shroud.Algorithm

/-- An encryption algorithm that is known by a name. -/
structure KnownCipher where
  name : String
  oid : String
  parameters : Form

namespace Registry

/-- A number of an object identifier below another one. -/
def below (oid : String) (n : Nat) : String :=
  oid ++ "." ++ Decimal.ofInt n

/-- The modes of AES, by the last number of their object identifiers for the shortest key. -/
def aesModes : List (String × Nat × Form) :=
  [("ecb", 1, .any), ("cbc", 2, .octetString), ("ofb", 3, .octetString), ("cfb", 4, .any),
    ("wrap", 5, .any), ("gcm", 6, .any), ("ccm", 7, .nonceAndLength), ("wrap_pad", 8, .any)]

/-- AES with keys of so many bits, whose object identifiers start after a number. -/
def aes (bits start : Nat) : List KnownCipher :=
  aesModes.map fun (mode, n, form) =>
    ⟨"aes" ++ Decimal.ofInt bits ++ "_" ++ mode, below "2.16.840.1.101.3.4.1" (start + n), form⟩

/-- The password-based schemes of the first generation. -/
def firstGeneration : List KnownCipher :=
  [("pbes1_md2_des", 1), ("pbes1_md5_des", 3), ("pbes1_md2_rc2", 4), ("pbes1_md5_rc2", 6),
      ("pbes1_sha1_des", 10), ("pbes1_sha1_rc2", 11)].map fun (name, n) =>
    ⟨name, below "1.2.840.113549.1.5" n, .saltAndCount⟩

/-- The password-based schemes of this library's family. -/
def passwordSchemes : List KnownCipher :=
  [("pkcs12_sha1_rc4_128", 1), ("pkcs12_sha1_rc4_40", 2), ("pkcs12_sha1_tripledes_3key", 3),
      ("pkcs12_sha1_tripledes_2key", 4), ("pkcs12_sha1_rc2_128", 5),
      ("pkcs12_sha1_rc2_40", 6)].map fun (name, n) =>
    ⟨name, below "1.2.840.113549.1.12.1" n, .saltAndCount⟩

/-- **The known encryption algorithms.** -/
def ciphers : List KnownCipher :=
  [⟨"des", "1.3.14.3.2.7", .octetString⟩, ⟨"tripledes_3key", "1.2.840.113549.3.7", .octetString⟩,
      ⟨"rc2", "1.2.840.113549.3.2", .rc2Vector⟩, ⟨"rc4", "1.2.840.113549.3.4", .any⟩,
      ⟨"rc5", "1.2.840.113549.3.9", .rc5Vector⟩,
      ⟨"rsaes_pkcs1v15", "1.2.840.113549.1.1.1", .null⟩,
      ⟨"rsaes_oaep", "1.2.840.113549.1.1.7", .maskedPadding⟩,
      ⟨"pbes2", "1.2.840.113549.1.5.13", .derivationAndCipher⟩]
    ++ aes 128 0 ++ aes 192 20 ++ aes 256 40 ++ firstGeneration ++ passwordSchemes

/-- Further algorithms whose parameters are null: signatures and digests. -/
def withoutParameters : List String :=
  ["1.2.840.113549.1.1.1", "1.2.840.113549.1.1.11", "1.2.840.113549.1.1.12", "1.2.840.113549.1.1.13",
    "1.2.840.113549.1.1.14", "1.3.14.3.2.26", "2.16.840.1.101.3.4.2.1", "2.16.840.1.101.3.4.2.2",
    "2.16.840.1.101.3.4.2.3", "2.16.840.1.101.3.4.2.4"]

/-- The object identifier that a name stands for. -/
def oidOfName? (name : String) : Option String :=
  (ciphers.find? (·.name == name)).map (·.oid)

/-- Null for the algorithms without parameters. -/
def nullOrAny (oid : String) : Form :=
  if withoutParameters.contains oid then .null else .any

/-- What the cipher with a name prescribes, which is one of its own or the usual text of its object
identifier; another text writes the identifier `oid`. -/
def namedForm (name oid : String) : Form :=
  ((ciphers.find? fun c => c.name == name || c.oid == name).map (·.parameters)).getD (nullOrAny oid)

/-- **What an algorithm prescribes**, by its family and its object identifier. -/
def parameterForm (family : Family) (oid : String) : Form :=
  match family with
  | .cipher => namedForm oid oid
  | .derivation => if oid == "1.2.840.113549.1.5.12" then .keyFromPassword else .any
  | .digest => nullOrAny oid
  | .mask => if oid == "1.2.840.113549.1.1.8" then .identifier .digest else .any
  | .label => if oid == "1.2.840.113549.1.1.9" then .octetString else .any
  | .other => .any

end Registry

end Shroud.Algorithm
