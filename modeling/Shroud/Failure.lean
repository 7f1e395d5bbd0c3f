import Shroud.Ber.Fault
import Shroud.Value.Printer
import Shroud.Settings.Fault

/-!
# Failures

Why an operation gives no result, by cause. The wording is in one place (`Failure.message`), and so is
the kind under which a failure is reported (`Failure.kind`). Failures of padding have a single cause, so
nothing about a rejected plaintext can be told from one.

A message that would hold an integer of more than 4300 digits cannot be written; `Failure.checked`
replaces the failure by `Misuse.oversizedInteger`.
-/

namespace Shroud

/-- Encryption parameters that are not usable. -/
inductive ParameterFault where
  | missing
  | malformed
  | notPositive (iterations : Int)
  | overLimit (iterations limit : Int)
  | noContent

/-- Key derivation that is refused, or that gave the wrong number of octets. -/
inductive DerivationFault where
  | outsidePlane
  | unknownDigest (shown : String)
  | iterations (n : Int)
  | outputLength (n : Int)
  | wrongLength (purpose : Purpose) (derived : Nat) (scheme : Scheme) (needed : Int)

/-- A block cipher or a mode that cannot be built. -/
inductive CipherFault where
  | tripleDesKey (length : Nat)
  | tripleDesIv
  | rc2Key (length : Nat)
  | rc2Bits (bits : Int)
  | rc2Parameters
  | closed

/-- Data that is not a positive number of whole blocks. -/
inductive LengthFault where
  | empty
  | unaligned (length : Nat) (blockSize : Int)

/-- A call outside its contract. -/
inductive Misuse where
  /-- A secret is neither a buffer nor immutable octets. -/
  | secretKind
  /-- A password is a text where octets are needed. -/
  | textPassword
  /-- What is to be wiped is no mutable buffer. -/
  | wipeKind
  /-- What is to be decrypted offers no algorithm and data. -/
  | envelopeKind
  /-- What is to be encrypted has no octets. -/
  | messageKind
  /-- Two values cannot be compared in constant time. -/
  | comparedKinds
  /-- A text holds a surrogate. -/
  | surrogate
  /-- A block size is zero. -/
  | zeroBlockSize
  /-- A buffer without octets has no last one. -/
  | emptyBuffer
  /-- A diversifier is not an octet. -/
  | diversifier
  /-- A digest is asked for by a value that no table can hold. -/
  | digestKind
  /-- A direction has no such name. -/
  | direction
  /-- An encoding cannot be read as the structure it should be, or not be written anew. -/
  | encoding (fault : Ber.Fault)
  /-- An object identifier cannot be encoded. -/
  | objectIdentifier
  /-- An object identifier is neither a text nor absent. -/
  | objectIdentifierKind
  /-- An algorithm prescribes parameters of another form. -/
  | parameterForm
  /-- An integer has more digits than are ever written or read. -/
  | oversizedInteger
  /-- A log level has no such name. -/
  | unknownLevel
  /-- The name of a log level stands for a text. -/
  | textLevel
  /-- The name of a log level stands for something that is no level. -/
  | levelKind
  /-- A field of a log line has the name of a parameter of the call, or the logger takes no fields. -/
  | fieldClash
  /-- An attribute of a log record has the name of one that every record has. -/
  | reservedAttribute
  /-- A row of attributes has no item in a position that it names. -/
  | attributePosition
  /-- A fault is made from the wrong number of arguments. -/
  | faultArguments
  /-- A log line cannot be written. -/
  | rendering (fault : RenderFault)
  deriving DecidableEq

/-- Why an operation gives no result. -/
inductive Failure where
  | unsupported (algorithm : String)
  | parameters (fault : ParameterFault)
  | derivation (fault : DerivationFault)
  | cipher (fault : CipherFault)
  | length (fault : LengthFault)
  | padding
  | settings (faults : List SettingFault)
  | misuse (fault : Misuse)
  | client (kind : FaultKind) (arguments : List Value)

namespace ParameterFault

/-- The wording. -/
def message : ParameterFault → String
  | missing => "pkcs12: PBE parameters are missing"
  | malformed => "pkcs12: malformed PBE parameters"
  | notPositive n => "pkcs12: iteration count must be positive, got " ++ Decimal.ofInt n
  | overLimit n limit =>
    "pkcs12: iteration count " ++ Decimal.ofInt n ++ " exceeds the limit of " ++ Decimal.ofInt limit
  | noContent => "pkcs12: encrypted content is missing"

/-- The integers in the message. -/
def integers : ParameterFault → List Int
  | notPositive n => [n]
  | overLimit n limit => [n, limit]
  | _ => []

end ParameterFault

namespace DerivationFault

/-- The wording. -/
def message : DerivationFault → String
  | outsidePlane => "password contains a character outside the Basic Multilingual Plane"
  | unknownDigest shown => "unsupported digest for PKCS#12 KDF: " ++ shown
  | iterations n => "iteration count must be positive, got " ++ Decimal.ofInt n
  | outputLength n => "output length must be positive, got " ++ Decimal.ofInt n
  | wrongLength purpose derived scheme needed =>
    "pkcs12: derived " ++ purpose.name ++ " is " ++ Decimal.ofInt derived ++ " bytes, "
      ++ scheme.name ++ " needs " ++ Decimal.ofInt needed

/-- The integers in the message. -/
def integers : DerivationFault → List Int
  | iterations n | outputLength n => [n]
  | wrongLength _ derived _ needed => [derived, needed]
  | _ => []

end DerivationFault

namespace CipherFault

/-- The wording. -/
def message : CipherFault → String
  | tripleDesKey n => "pkcs12: triple DES key must be 24 bytes, got " ++ Decimal.ofInt n
  | tripleDesIv => "pkcs12: invalid triple DES IV"
  | rc2Key n => "pkcs12: RC2 key must be 5-128 bytes, got " ++ Decimal.ofInt n
  | rc2Bits n => "pkcs12: RC2 effective key length must be 40-1024 bits, got " ++ Decimal.ofInt n
  | rc2Parameters => "pkcs12: invalid RC2 parameters"
  | closed => "pkcs12: cipher has been closed"

/-- The integers in the message. -/
def integers : CipherFault → List Int
  | tripleDesKey n | rc2Key n => [n]
  | rc2Bits n => [n]
  | _ => []

end CipherFault

namespace LengthFault

/-- The wording. -/
def message : LengthFault → String
  | empty => "pkcs12: input is empty"
  | unaligned length blockSize =>
    "pkcs12: input length " ++ Decimal.ofInt length ++ " is not a multiple of the block size "
      ++ Decimal.ofInt blockSize

/-- The integers in the message. -/
def integers : LengthFault → List Int
  | empty => []
  | unaligned length blockSize => [length, blockSize]

end LengthFault

/-- The kind under which a fault of an element is reported. -/
def Ber.Fault.kind : Ber.Fault → FaultKind
  | malformed => .value
  | noUnusedCount => .index
  | undecodable => .decode
  | unlisted => .type
  | formless => .missingAttribute
  | outOfCalendar => .overflow

namespace Misuse

/-- The kind under which misuse is reported. -/
def kind : Misuse → FaultKind
  | secretKind | textPassword | wipeKind | envelopeKind | messageKind | comparedKinds | digestKind
  | objectIdentifierKind | parameterForm | levelKind | fieldClash | faultArguments => .type
  | surrogate => .encode
  | zeroBlockSize => .zeroDivision
  | emptyBuffer | attributePosition => .index
  | diversifier | direction | objectIdentifier | oversizedInteger | textLevel => .value
  | unknownLevel => .missingAttribute
  | reservedAttribute => .key
  | encoding fault => fault.kind
  | rendering fault => fault.kind

/-- The wording, where the library has one. -/
def message? : Misuse → Option String
  | secretKind => some "secret must be bytes or bytearray"
  | wipeKind => some "secure_zero requires a bytearray, not bytes"
  | envelopeKind => some "info must provide get_algorithm() and get_data()"
  | _ => none

end Misuse

/-! ### Faults that clients make -/

/-- The message about an algorithm that is not registered. -/
def unsupportedMessage (algorithm : String) : String :=
  "pkcs12: algorithm " ++ algorithm ++ " is not supported"

/-- The one message about padding. -/
def paddingMessage : String :=
  "pkcs12: decryption error, incorrect padding"

/-- The arguments that a fault keeps. Two kinds make their message themselves: one from the algorithm that
is not supported, and one from nothing. -/
def FaultKind.kept (kind : FaultKind) (arguments : List Value) : Except Failure (List Value) :=
  match kind, arguments with
  | .unsupported, [algorithm] =>
    match algorithm.display with
    | .ok s => .ok [.text (unsupportedMessage s)]
    | .error fault => .error (.misuse (.rendering fault))
  | .decryption, [] => .ok [.text paddingMessage]
  | .unsupported, _ | .decryption, _ => .error (.misuse .faultArguments)
  | _, arguments => .ok arguments

namespace Failure

/-- The failure that a client's fault of some kind is, or that of making the fault. -/
def ofFault (kind : FaultKind) (arguments : List Value) : Failure :=
  match kind, arguments with
  | .unsupported, [algorithm] =>
    match algorithm.display with
    | .ok s => .unsupported s
    | .error fault => .misuse (.rendering fault)
  | .decryption, [] => .padding
  | .unsupported, _ | .decryption, _ => .misuse .faultArguments
  | _, arguments => .client kind arguments

/-- The kind under which a failure is reported. -/
def kind : Failure → FaultKind
  | unsupported _ => .unsupported
  | parameters _ => .parameters
  | derivation _ => .derivation
  | cipher _ => .cipher
  | length _ => .length
  | padding => .decryption
  | settings _ => .settings
  | misuse fault => fault.kind
  | client kind _ => kind

/-- **The wording of a failure**, where the library has one. -/
def message? : Failure → Option String
  | unsupported algorithm => some (unsupportedMessage algorithm)
  | parameters fault => some fault.message
  | derivation fault => some fault.message
  | cipher fault => some fault.message
  | length fault => some fault.message
  | padding => some paddingMessage
  | settings _ => none
  | misuse fault => fault.message?
  | client kind arguments => (Value.fault kind arguments).display.toOption

/-- The integers that the message holds. -/
def integers : Failure → List Int
  | parameters fault => fault.integers
  | derivation fault => fault.integers
  | cipher fault => fault.integers
  | length fault => fault.integers
  | _ => []

/-- The failure itself when its message can be written. -/
def checked (failure : Failure) : Failure :=
  if failure.integers.all Decimal.inBounds then failure else .misuse .oversizedInteger

end Failure

end Shroud
