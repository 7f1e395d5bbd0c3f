import Shroud.Engine.Request
import Shroud.Proofs.Cipher.Chaining
import Shroud.Proofs.Engine.Operation
import Shroud.Proofs.Padding

/-!
# Tools are cleared

The engine puts keys, vectors and padded messages into buffers, and keys into ciphers. All of these are tools of the
call, and none of them may outlive it: a buffer has to be wiped and a cipher closed, however the work with them ends.

Whether a tool is cleared too early can be seen from what the work gives, for it reads the tool where it lies. So the
steps that make tools are each described by one equation, which says both what they give and what they leave:

* making a mode from a password (`Engine.buildMode_of_claim`), where the password is wiped as soon as key and vector
  are there, and these and the cipher are cleared when the mode is open;
* padding and encrypting a message (`Engine.encryptPadded_eq`), and decrypting and unpadding it
  (`Engine.decryptPadded_eq`).

All three are `Op.Confined`: they depend on the custody of the password only, and leave nothing but that custody and
cleared tools. This is all that the rest of the development has to know of them.
-/

namespace Shroud

variable {α β : Type}

/-! ### Tools -/

/-- Clearing once more makes no difference. -/
@[simp] theorem Tool.cleared_cleared (t : Tool) : t.cleared.cleared = t.cleared := by
  cases t with
  | buffer octets => simp [cleared, Bytes.wiped]
  | cipher c => rfl

/-- Tools behind others are cleared by their places among themselves. -/
theorem Tool.clearAt_append (earlier later : List Tool) (places : List Nat) :
    clearAt (places.map (earlier.length + ·)) (earlier ++ later) = earlier ++ clearAt places later := by
  induction places generalizing later with
  | nil => rfl
  | cons place places ih =>
    have hfirst : (earlier ++ later).modify (earlier.length + place) cleared = earlier ++ later.modify place cleared :=
      List.modifyTailIdx_add (List.modifyHead cleared) place earlier later
    change clearAt _ ((earlier ++ later).modify (earlier.length + place) cleared) = _
    rw [hfirst, ih]
    rfl

/-- The tools that were made last are cleared behind those of the call. -/
theorem Call.clear_append (c : Call) (later : List Tool) (places : List Nat) :
    clear (places.map (c.tools.length + ·)) { c with tools := c.tools ++ later }
      = { c with tools := c.tools ++ Tool.clearAt places later } := by
  rw [clear, Tool.clearAt_append]

/-! ### Operations that leave nothing -/

namespace Op

/-- The octets in a buffer are read, and stay. -/
theorem octetsAt_eq {c : Call} {place : Nat} {octets : Bytes} (h : c.tools[place]? = some (.buffer octets)) :
    octetsAt place c = (.ok octets, c) := by
  obtain ⟨hplace, hbuffer⟩ := List.getElem?_eq_some_iff.mp h
  have hset : c.tools.set place (.buffer octets) = c.tools := by rw [← hbuffer, List.set_getElem_self]
  simp only [octetsAt, onBuffer, h, hset]

/-- A cipher that is held opens its mode, and stays held. -/
theorem openAt_eq {c : Call} {place : Nat} {cipher : Cipher} (h : c.tools[place]? = some (.cipher cipher)) (iv : Bytes)
    (label : String) : openAt place iv label c = (cipher.openMode iv label, c) := by
  simp only [openAt, h]

/-- **An operation is confined to the password**: what it gives and what becomes of the custody depend on the custody
alone. Of all else in a call nothing is changed, and the tools that were made are cleared. -/
def Confined (x : Op α) : Prop :=
  ∃ f : Custody → Except Failure α × Custody × List Tool,
    (∀ custody, ∀ tool ∈ (f custody).2.2, tool.cleared = tool)
    ∧ ∀ c, x c = ((f c.custody).1, { c with custody := (f c.custody).2.1, tools := c.tools ++ (f c.custody).2.2 })

namespace Confined

/-- An operation that leaves the call as it is, and gives what the custody tells it to, is confined. -/
theorem of_eq {x : Op α} (f : Custody → Except Failure α) (h : ∀ c, x c = (f c.custody, c)) : Confined x := by
  refine ⟨fun custody => (f custody, custody, []), fun _ tool htool => absurd htool List.not_mem_nil, fun c => ?_⟩
  rw [h, List.append_nil]

theorem pure {a : α} : Confined (pure a : Op α) := of_eq (fun _ => .ok a) fun _ => rfl

theorem ofResult {r : Except Failure α} : Confined (Op.ofResult r) := of_eq (fun _ => r) fun _ => rfl

theorem fail {failure : Failure} : Confined (Op.fail failure : Op α) := of_eq (fun _ => .error failure) fun _ => rfl

end Confined

end Op

namespace Engine

variable (e : Engine) {c : Call}

open Op (Confined)

/-! ### Making a mode -/

/-- The mode for a direction under a key and a vector. -/
def modeUnder (d : Descriptor) (direction : Direction) (key iv : Bytes) : Except Failure Mode := do
  let cipher ← d.scheme.newCipher key
  cipher.openMode iv direction.label

/-- The mode that a password and parameters lead to. -/
def modeFor (d : Descriptor) (password salt : Bytes) (iterations : Int) (direction : Direction) :
    Except Failure Mode := do
  let key ← d.deriveKey e.function salt password iterations
  let iv ← d.deriveIv e.function salt password iterations
  modeUnder d direction key iv

/-- What opening a mode leaves: two wiped buffers, and a closed cipher if there was one. -/
def toolsUnder (d : Descriptor) (key iv : Bytes) : List Tool :=
  [.buffer (Bytes.wiped key), .buffer (Bytes.wiped iv)] ++ match d.scheme.newCipher key with
    | .ok cipher => [.cipher cipher.close]
    | .error _ => []

/-- What making a mode leaves. There may be a key without a vector, or no key. -/
def toolsFor (d : Descriptor) (password salt : Bytes) (iterations : Int) : List Tool :=
  match d.deriveKey e.function salt password iterations, d.deriveIv e.function salt password iterations with
  | .ok key, .ok iv => toolsUnder d key iv
  | .ok key, .error _ => [.buffer (Bytes.wiped key)]
  | .error _, _ => []

/-- All tools made under a key are cleared. -/
theorem cleared_of_mem_toolsUnder (d : Descriptor) (key iv : Bytes) :
    ∀ tool ∈ toolsUnder d key iv, tool.cleared = tool := by
  have hwiped : ∀ octets, (Tool.buffer (Bytes.wiped octets)).cleared = .buffer (Bytes.wiped octets) :=
    fun octets => Tool.cleared_cleared (.buffer octets)
  unfold toolsUnder
  cases d.scheme.newCipher key with
  | error failure => simp [hwiped]
  | ok cipher =>
    have hclosed : (Tool.cipher cipher.close).cleared = .cipher cipher.close := Tool.cleared_cleared (.cipher cipher)
    simp [hwiped, hclosed]

/-- **Nothing is left of making a mode** but what is cleared. -/
theorem cleared_of_mem_toolsFor (d : Descriptor) (password salt : Bytes) (iterations : Int) :
    ∀ tool ∈ e.toolsFor d password salt iterations, tool.cleared = tool := by
  unfold toolsFor
  split
  · exact cleared_of_mem_toolsUnder d _ _
  · next key _ _ _ =>
    intro tool htool
    obtain rfl := List.mem_singleton.mp htool
    exact Tool.cleared_cleared (.buffer key)
  · exact fun tool htool => absurd htool List.not_mem_nil

/-- **Deriving key and vector** with what is held of the password. -/
theorem derived_eq (d : Descriptor) (salt : Bytes) (iterations : Int) (c : Call) :
    e.derived d salt iterations c
      = match d.deriveKey e.function salt c.custody.octets iterations,
          d.deriveIv e.function salt c.custody.octets iterations with
        | .ok key, .ok iv =>
          (.ok (c.tools.length, c.tools.length + 1), { c with tools := c.tools ++ [.buffer key, .buffer iv] })
        | .ok key, .error failure => (.error failure, { c with tools := c.tools ++ [.buffer (Bytes.wiped key)] })
        | .error failure, _ => (.error failure, c) := by
  cases hkey : d.deriveKey e.function salt c.custody.octets iterations with
  | error failure => simp only [derived, Op.bind_apply, Op.password, Op.ofResult, hkey]
  | ok key =>
    cases hiv : d.deriveIv e.function salt c.custody.octets iterations with
    | error failure =>
      simp only [derived, Op.bind_apply, Op.password, Op.ofResult, Op.hold, Op.clearingOnFailure, hkey, hiv]
      -- the key lies behind the tools that were there, and is wiped in its place
      exact congrArg (Prod.mk _) (c.clear_append [.buffer key] [0])
    | ok iv =>
      simp only [derived, Op.bind_apply, Op.password, Op.ofResult, Op.hold, Op.clearingOnFailure, hkey, hiv,
        List.append_assoc, List.length_append, List.length_singleton]
      rfl

/-- **Opening a mode** under a key and a vector that were made last. -/
theorem openMode_eq (d : Descriptor) (direction : Direction) (key iv : Bytes) (c : Call) :
    openMode d direction c.tools.length (c.tools.length + 1)
        { c with tools := c.tools ++ [.buffer key, .buffer iv] }
      = (modeUnder d direction key iv, { c with tools := c.tools ++ toolsUnder d key iv }) := by
  let c₁ : Call := { c with tools := c.tools ++ [.buffer key, .buffer iv] }
  change openMode d direction c.tools.length (c.tools.length + 1) c₁ = _
  have hkey : Op.octetsAt c.tools.length c₁ = (.ok key, c₁) := Op.octetsAt_eq (by simp [c₁])
  unfold modeUnder toolsUnder
  cases hcipher : d.scheme.newCipher key with
  | error failure =>
    simp only [openMode, Op.clearing, Op.bind_apply, hkey, Op.ofResult, hcipher]
    exact congrArg (Prod.mk _) (c.clear_append [.buffer key, .buffer iv] [0, 1])
  | ok cipher =>
    -- the cipher lies behind key and vector, and is closed before these are wiped
    let c₂ : Call := { c with tools := c.tools ++ [.buffer key, .buffer iv, .cipher cipher] }
    have hheld : Op.hold (.cipher cipher) c₁ = (.ok (c.tools.length + 2), c₂) := by simp [Op.hold, c₁, c₂]
    have hiv : Op.octetsAt (c.tools.length + 1) c₂ = (.ok iv, c₂) := Op.octetsAt_eq (by simp [c₂])
    have hopened : Op.openAt (c.tools.length + 2) iv direction.label c₂ = (cipher.openMode iv direction.label, c₂) :=
      Op.openAt_eq (by simp [c₂]) iv direction.label
    have hclosed : c₂.clear [c.tools.length + 2]
        = { c with tools := c.tools ++ [.buffer key, .buffer iv, .cipher cipher.close] } :=
      c.clear_append [.buffer key, .buffer iv, .cipher cipher] [2]
    simp only [openMode, Op.clearing, Op.bind_apply, hkey, Op.ofResult, hcipher, hheld, hiv, hopened, hclosed]
    exact congrArg (Prod.mk _) (c.clear_append [.buffer key, .buffer iv, .cipher cipher.close] [0, 1])

/-- **Making a mode from a password** that can be claimed. The mode is opened under what the password leads to; the
password is wiped, and so is all that was made for the mode. -/
theorem buildMode_of_claim {claimed : Custody} (hclaim : c.custody.claim = .ok claimed) (d : Descriptor) (salt : Bytes)
    (iterations : Int) (direction : Direction) :
    e.buildMode d salt iterations direction c
      = (e.modeFor d claimed.octets salt iterations direction,
        { c with custody := claimed.wipe, tools := c.tools ++ e.toolsFor d claimed.octets salt iterations }) := by
  unfold modeFor toolsFor
  simp only [buildMode, material, Op.bind_apply, Op.consuming, hclaim, derived_eq]
  -- without a key there is nothing to clear, and without a vector only the key
  cases d.deriveKey e.function salt claimed.octets iterations with
  | error failure =>
    rw [List.append_nil]
    rfl
  | ok key =>
    cases d.deriveIv e.function salt claimed.octets iterations with
    | error failure => rfl
    | ok iv => exact openMode_eq d direction key iv { c with custody := claimed.wipe }

/-- A password that cannot be claimed is refused, and nothing is done. -/
theorem buildMode_of_refused {failure : Failure} (hclaim : c.custody.claim = .error failure) (d : Descriptor)
    (salt : Bytes) (iterations : Int) (direction : Direction) :
    e.buildMode d salt iterations direction c = (.error failure, c) := by
  simp only [buildMode, material, Op.bind_apply, Op.consuming, hclaim]

/-! ### Messages -/

/-- **Padding and encrypting a message** leaves a wiped buffer. -/
theorem encryptPadded_eq (mode : Mode) (message : Bytes) (c : Call) :
    encryptPadded mode message c
      = (mode.result (Padding.pad blockSize message),
        { c with tools := c.tools ++ [.buffer (Bytes.wiped (Padding.pad blockSize message))] }) := by
  let c₁ : Call := { c with tools := c.tools ++ [.buffer (Padding.pad blockSize message)] }
  have hheld : Op.hold (.buffer (Padding.pad blockSize message)) c = (.ok c.tools.length, c₁) := rfl
  have hpadded : Op.octetsAt c.tools.length c₁ = (.ok (Padding.pad blockSize message), c₁) :=
    Op.octetsAt_eq (by simp [c₁])
  -- the padded message is wiped, whether or not the mode took it
  have hwiped := c.clear_append [.buffer (Padding.pad blockSize message)] [0]
  rw [encryptPadded, Op.bind_of_ok hheld, Op.clearing, Op.bind_of_ok hpadded, Mode.result]
  cases mode.crypt (Padding.pad blockSize message) with
  | error failure => exact congrArg (Prod.mk _) hwiped
  | ok crypted => exact congrArg (Prod.mk _) hwiped

/-- **Decrypting and unpadding a message** leaves a wiped buffer, if anything is decrypted. -/
theorem decryptPadded_eq (mode : Mode) (data : Bytes) (c : Call) :
    decryptPadded mode data c
      = match mode.result data with
        | .ok padded =>
          ((Padding.unpad blockSize padded).1, { c with tools := c.tools ++ [.buffer (Bytes.wiped padded)] })
        | .error failure => (.error failure, c) := by
  unfold decryptPadded Mode.result
  cases mode.crypt data with
  | error failure => rfl
  | ok crypted =>
    obtain ⟨padded, next⟩ := crypted
    let c₁ : Call := { c with tools := c.tools ++ [.buffer padded] }
    have hheld : Op.hold (.buffer padded) c = (.ok c.tools.length, c₁) := rfl
    have hbuffer : c₁.tools[c.tools.length]? = some (.buffer padded) := by simp [c₁]
    -- what was decrypted is held in place of nothing else, and unpadding wipes it
    have hset : ∀ after, c₁.tools.set c.tools.length (.buffer after) = c.tools ++ [.buffer after] := by simp [c₁]
    change (Op.hold (.buffer padded) >>= fun place => Op.onBuffer place (Padding.unpad blockSize)) c = _
    rw [Op.bind_of_ok hheld]
    simp only [Op.onBuffer, hbuffer, hset, Padding.snd_unpad]
    rfl

/-! ### What is confined -/

/-- **Making a mode is confined**: it reads the password, and leaves cleared tools. -/
theorem confined_buildMode (d : Descriptor) (salt : Bytes) (iterations : Int) (direction : Direction) :
    Confined (e.buildMode d salt iterations direction) := by
  -- the custody decides all: a password that is refused leaves no tools
  refine ⟨fun custody => match custody.claim with
    | .ok claimed => (e.modeFor d claimed.octets salt iterations direction, claimed.wipe,
        e.toolsFor d claimed.octets salt iterations)
    | .error failure => (.error failure, custody, []), fun custody => ?_, fun c => ?_⟩
  -- the tools are cleared,
  · dsimp only
    cases custody.claim with
    | ok claimed => exact e.cleared_of_mem_toolsFor d claimed.octets salt iterations
    | error failure => exact fun tool htool => absurd htool List.not_mem_nil
  -- and they are those that the step leaves behind the others
  · cases hclaim : c.custody.claim with
    | ok claimed =>
      simp only [hclaim]
      exact e.buildMode_of_claim hclaim d salt iterations direction
    | error failure =>
      simp only [hclaim, List.append_nil]
      exact e.buildMode_of_refused hclaim d salt iterations direction

/-- Padding and encrypting is confined: beside the ciphertext it leaves a wiped buffer. -/
theorem confined_encryptPadded (mode : Mode) (message : Bytes) : Confined (encryptPadded mode message) := by
  refine ⟨fun custody => (mode.result (Padding.pad blockSize message), custody, _), fun custody tool htool => ?_,
    encryptPadded_eq mode message⟩
  obtain rfl := List.mem_singleton.mp htool
  exact Tool.cleared_cleared (.buffer (Padding.pad blockSize message))

/-- Decrypting and unpadding is confined: beside the message it leaves a wiped buffer. -/
theorem confined_decryptPadded (mode : Mode) (data : Bytes) : Confined (decryptPadded mode data) := by
  cases hresult : mode.result data with
  | error failure => exact .of_eq (fun _ => .error failure) fun c => by rw [decryptPadded_eq, hresult]
  | ok padded =>
    refine ⟨fun custody => ((Padding.unpad blockSize padded).1, custody, [.buffer (Bytes.wiped padded)]),
      fun custody tool htool => ?_, fun c => by rw [decryptPadded_eq, hresult]⟩
    obtain rfl := List.mem_singleton.mp htool
    exact Tool.cleared_cleared (.buffer padded)

end Engine

end Shroud
