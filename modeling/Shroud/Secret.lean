import Shroud.Failure

/-!
# Secrets and their custody

A secret is handed over in one of several kinds. Only a mutable buffer can be wiped; immutable octets and
read-only views are copied, and only the copy is wiped.

* `Secret.wipe` zeroes a buffer and refuses every other kind;
* `Secret.wipeAll` zeroes buffers one after another and stops at the first that is none;
* `Secret.agree` compares two secrets octet by octet.

`Custody` is what a call knows of the password it was given: the secret as offered, and the octets held
since it was claimed. Whoever claims a secret wipes what is held when the work with it ends, and may hand
it on to inner work that claims and wipes it again: `Custody.claim` takes an already claimed secret as it
is. `Custody.settle` is the caller's secret afterwards.
-/

namespace Shroud

/-- A secret as a client hands it over. -/
inductive Secret where
  /-- A mutable buffer. -/
  | buffer (bs : Bytes)
  /-- Immutable octets. -/
  | octets (bs : Bytes)
  /-- A read-only view of octets. -/
  | view (bs : Bytes)
  /-- A text, which is no secret. -/
  | text (s : String)
  /-- Nothing. -/
  | absent
  deriving DecidableEq, Inhabited

namespace Secret

/-- The octets of a secret. -/
def octets? : Secret → Option Bytes
  | buffer bs | octets bs | view bs => some bs
  | text _ | absent => none

/-- Whether the secret can be wiped. -/
def isBuffer : Secret → Bool
  | buffer _ => true
  | _ => false

/-- The buffer with all its octets zero. -/
def wipe : Secret → Except Failure Secret
  | buffer bs => .ok (buffer (Bytes.wiped bs))
  | _ => .error (.misuse .wipeKind)

/-- The secrets after wiping them in order, and the failure that ended it. -/
def wipeAll : List Secret → List Secret × Option Failure
  | [] => ([], none)
  | s :: rest =>
    match s.wipe with
    | .ok s' =>
      let (rest', failure) := wipeAll rest
      (s' :: rest', failure)
    | .error failure => (s :: rest, some failure)

/-- **Work with buffers that are wiped when it ends.** The work's own failure gives way to one of
wiping. -/
def wipingAll (raised : Option Failure) (secrets : List Secret) : Except Failure Unit × List Secret :=
  let (after, failure) := wipeAll secrets
  match failure, raised with
  | some f, _ | none, some f => (.error f, after)
  | none, none => (.ok (), after)

/-- Whether two secrets have the same octets. Texts are compared with texts only, and only in ASCII. -/
def agree : Secret → Secret → Except Failure Bool
  | text a, text b =>
    if a.toList.all (·.toNat < 128) && b.toList.all (·.toNat < 128) then .ok (a == b)
    else .error (.misuse .comparedKinds)
  | a, b =>
    match a.octets?, b.octets? with
    | some x, some y => .ok (x == y)
    | _, _ => .error (.misuse .comparedKinds)

end Secret

/-- The custody of one secret during a call. -/
structure Custody where
  /-- The secret as it was offered. -/
  offered : Secret
  /-- The octets that are held, once the secret is claimed. -/
  held : Option Bytes := none

namespace Custody

/-- Takes the secret over; a secret without octets is refused. -/
def claim (c : Custody) : Except Failure Custody :=
  match c.held with
  | some _ => .ok c
  | none =>
    match c.offered.octets? with
    | some bs => .ok { c with held := some bs }
    | none => .error (.misuse .secretKind)

/-- What is held at this moment; nothing before the claim. -/
def octets (c : Custody) : Bytes :=
  c.held.getD []

/-- Zeroes what is held. -/
def wipe (c : Custody) : Custody :=
  { c with held := c.held.map Bytes.wiped }

/-- **The caller's secret afterwards.** A buffer that was claimed is what is held now; everything else
is as it was. -/
def settle (c : Custody) : Secret :=
  match c.offered, c.held with
  | .buffer _, some bs => .buffer bs
  | s, _ => s

/-- Whether a claim hands out the very buffer that was passed in, not a copy. -/
def sharesBuffer (c : Custody) : Bool :=
  c.held.isSome || c.offered.isBuffer

/-! ### Nested custody, observed -/

/-- What is seen of a block that holds a secret. -/
inductive Event where
  /-- On entry: whether the caller's buffer is shared, and the octets held. -/
  | entered (shared : Bool) (held : Bytes)
  /-- After the block ended without failure: the octets held. -/
  | left (held : Bytes)

/-- `depth` blocks one inside the other, each claiming the secret and wiping it on every exit; the
innermost work fails with `raised`, if given. -/
def nested (raised : Option Failure) :
    (depth : Nat) → Custody → Except Failure Unit × Custody × List Event
  | 0, c =>
    match raised with
    | some failure => (.error failure, c, [])
    | none => (.ok (), c, [])
  | depth + 1, c =>
    match c.claim with
    | .error failure => (.error failure, c, [])
    | .ok claimed =>
      let (result, inner, events) := nested raised depth claimed
      let after := inner.wipe
      let leaving := match result with
        | .ok _ => [Event.left after.octets]
        | .error _ => []
      (result, after, .entered c.sharesBuffer claimed.octets :: events ++ leaving)

end Custody

end Shroud
