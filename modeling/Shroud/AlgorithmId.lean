import Shroud.Algorithm.Writing
import Shroud.Value.Printer

/-!
# Algorithm identifiers

An `AlgorithmId` names an algorithm and carries its parameters as the octets of their encoding. The name
is usually the text of an object identifier; arcs given one by one are joined to such a text.

Encoded, an identifier is a sequence of an object identifier and optional parameters, which have the form
that the algorithm prescribes (`Algorithm.Registry.parameterForm`). They are taken out of a structure with
the octets that `Algorithm.Form.written` gives. Only parameters that are a salt and a count are put into
one.
-/

namespace Shroud

open Ber Algorithm

/-- An algorithm and the encoding of its parameters. -/
structure AlgorithmId where
  algorithm : Value
  parameters : Bytes := []

namespace AlgorithmId

/-- The texts of arcs, joined by dots. -/
def ofArcs (arcs : List Value) : Except RenderFault Value :=
  (arcs.mapM Value.display).map fun texts => .text (".".intercalate texts)

/-- **The identifier of an algorithm** that is given by a name or by its arcs. -/
def make (algorithm : Value) (parameters : Bytes := []) : Except Failure AlgorithmId :=
  match algorithm with
  | .list arcs | .tuple arcs =>
    match ofArcs arcs with
    | .ok name => .ok ⟨name, parameters⟩
    | .error fault => .error (.misuse (.rendering fault))
  | name => .ok ⟨name, parameters⟩

/-- The identifier that the elements of a sequence start with. -/
def ofFields : List Element → Except Ber.Fault AlgorithmId
  | [] => .error .malformed
  | [oid] => do
    let name ← orMalformed (ObjectIdentifier.ofElement? oid)
    return ⟨.text name, []⟩
  | oid :: parameters :: _ => do
    let name ← orMalformed (ObjectIdentifier.ofElement? oid)
    let octets ← (Registry.parameterForm .cipher name).written parameters
    return ⟨.text name, octets⟩

/-- The identifier that a sequence holds. -/
def ofElement (e : Element) : Except Failure AlgorithmId :=
  ((orMalformed e.sequence?).bind ofFields).mapError fun fault => .misuse (.encoding fault)

/-- The identifier at the start of an encoding. -/
def read (raw : Bytes) : Except Failure AlgorithmId :=
  match Element.read raw with
  | some (e, _) => ofElement e
  | none => .error (.misuse (.encoding .malformed))

/-- The sequence that the parameters start with. -/
def parameterSequence? (a : AlgorithmId) : Option Element :=
  ((Element.read a.parameters).map Prod.fst).filter fun e => e.isUniversal 16 && e.header.constructed

/-- The text of the algorithm. -/
def name (a : AlgorithmId) : Except Misuse String :=
  match a.algorithm with
  | .text s => .ok s
  | .null | .scheme _ => .error .objectIdentifier
  | _ => .error .objectIdentifierKind

/-- The contents of the object identifier that a name stands for, or that a text writes. -/
def oidContents (name : String) : Except Misuse Bytes :=
  match ObjectIdentifier.contents? ((Registry.oidOfName? name).getD name) with
  | some contents => .ok contents
  | none => .error .objectIdentifier

/-- The text of the algorithm, and the contents of its object identifier. -/
def identified (a : AlgorithmId) : Except Misuse (String × Bytes) := do
  let name ← a.name
  return (name, ← oidContents name)

/-- Whether the algorithm with a name may have a salt and a count as its parameters. An object identifier
that is not written in its usual way is not taken for a known cipher. -/
def takesSaltAndCount (name : String) (contents : Bytes) : Bool :=
  match Registry.namedForm name ((ObjectIdentifier.dotted? contents).getD name) with
  | .any | .saltAndCount => true
  | _ => false

/-- **The encoding of an identifier** whose parameters are a sequence. It is refused for parameters that are
none, for an algorithm that is no object identifier, and for one that prescribes another form, whichever
comes first. -/
def encode (a : AlgorithmId) : Except Failure Bytes :=
  match a.parameterSequence?, a.identified with
  | none, _ => .error (.misuse (.encoding .malformed))
  | _, .error misuse => .error (.misuse misuse)
  | some parameters, .ok (name, contents) =>
    if takesSaltAndCount name contents then
      match Form.saltAndCount.written parameters with
      | .ok octets => .ok (Der.sequence [ObjectIdentifier.element contents, octets])
      | .error fault => .error (.misuse (.encoding fault))
    else .error (.misuse .parameterForm)

/-- The password-based parameters. -/
def derivationParameters (a : AlgorithmId) (limit : Option Int := none) : Except Failure Parameters :=
  Parameters.decode a.parameters limit

end AlgorithmId

end Shroud
