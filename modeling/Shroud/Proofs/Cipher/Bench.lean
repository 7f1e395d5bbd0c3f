import Mathlib.Data.List.Induction
import Shroud.Cipher.Bench
import Shroud.Proofs.Cipher.Pieces

/-!
# Modes side by side

On a bench, modes are opened, data is sent through them and the cipher is closed, in any order. `Bench.record`
keeps every step with the reply to it, and `Bench.sent` and `Bench.received` read off a record what one mode
accepted and what came out of it.

What a step can do is said once (`Bench.step_cases`). A bench `Agrees` with a record when each mode is what its
own accepted data leaves of the mode that was opened. A step keeps that (`Bench.Agrees.step`): of the modes it
changes at most the one that it names, and that one by the piece that the record gets. So by induction a bench
agrees with the record of all that was done at it (`Bench.agrees_record`), and `Bench.record_chained` reads the
consequences off.
-/

namespace Shroud.Bench

/-! ### Runs and records -/

/-- The bench at which nothing was done yet. -/
def fresh (c : Cipher) : Bench :=
  { cipher := c }

/-- The bench after steps, one after another. -/
def after (b : Bench) (steps : List Step) : Bench :=
  steps.foldl (fun b step => (b.step step).2) b

/-- **The record of steps**: each with the reply to it. -/
def record : Bench → List Step → List (Step × Reply)
  | _, [] => []
  | b, step :: steps => (step, (b.step step).1) :: record (b.step step).2 steps

/-- The pieces of data that a mode accepted, each with what came out. -/
def exchanged (index : Nat) (record : List (Step × Reply)) : List (Bytes × Bytes) :=
  record.filterMap fun
    | (.crypt i data, .data out) => if i = index then some (data, out) else none
    | _ => none

/-- All the data that a mode accepted. -/
def sent (index : Nat) (record : List (Step × Reply)) : Bytes :=
  (exchanged index record).flatMap Prod.fst

/-- All the data that came out of a mode. -/
def received (index : Nat) (record : List (Step × Reply)) : Bytes :=
  (exchanged index record).flatMap Prod.snd

theorem after_append_singleton (b : Bench) (steps : List Step) (step : Step) :
    b.after (steps ++ [step]) = ((b.after steps).step step).2 := by
  rw [after, List.foldl_append]
  rfl

/-- A step adds one line to the record, with what the bench before it replies. -/
theorem record_append_singleton (b : Bench) (steps : List Step) (step : Step) :
    b.record (steps ++ [step]) = b.record steps ++ [(step, ((b.after steps).step step).1)] := by
  induction steps generalizing b with
  | nil => rfl
  | cons first steps ih => exact congrArg _ (ih _)

/-- A step that returns no data exchanges nothing. -/
theorem exchanged_append_of_ne (index : Nat) (record : List (Step × Reply)) (step : Step) {reply : Reply}
    (h : ∀ out, reply ≠ .data out) : exchanged index (record ++ [(step, reply)]) = exchanged index record := by
  have hnothing : exchanged index [(step, reply)] = [] := by
    cases reply with
    | data out => exact absurd rfl (h out)
    | _ => cases step <;> rfl
  rw [exchanged, List.filterMap_append]
  exact (congrArg _ hnothing).trans (List.append_nil _)

/-- A piece and what came of it are exchanged in the mode that it was for. -/
theorem exchanged_append_crypt (index : Nat) (record : List (Step × Reply)) (i : Nat) (data out : Bytes) :
    exchanged index (record ++ [(.crypt i data, .data out)])
      = exchanged index record ++ if i = index then [(data, out)] else [] := by
  rw [exchanged, List.filterMap_append]
  by_cases hi : i = index <;> simp [exchanged, hi]

/-! ### One step -/

/-- **What a step can do**: a mode is opened behind the others, one mode goes on, the key is dropped, or
nothing changes. -/
theorem step_cases (b : Bench) (step : Step) :
    (∃ iv label m, step = .openMode iv label ∧ b.cipher.openMode iv label = .ok m
      ∧ b.step step = (.opened b.modes.length m, { b with modes := b.modes ++ [m] }))
    ∨ (∃ i data m out next, step = .crypt i data ∧ b.modes[i]? = some m
      ∧ m.crypt data = .ok (out, next)
      ∧ b.step step = (.data out, { b with modes := b.modes.set i next }))
    ∨ (step = .close ∧ b.step step = (.closed, { b with cipher := b.cipher.close }))
    ∨ ∃ reply, (reply = .noMode ∨ ∃ failure, reply = .refused failure) ∧ b.step step = (reply, b) := by
  cases step with
  | openMode iv label =>
    -- opening fails with the key or the vector, and changes nothing
    cases h : b.cipher.openMode iv label with
    | ok m => exact .inl ⟨iv, label, m, rfl, h, by simp only [Bench.step, h]⟩
    | error failure =>
      exact .inr (.inr (.inr ⟨_, .inr ⟨failure, rfl⟩, by simp only [Bench.step, h]⟩))
  | crypt i data =>
    -- there may be no such mode, or it may refuse the piece
    cases hm : b.modes[i]? with
    | none => exact .inr (.inr (.inr ⟨_, .inl rfl, by simp only [Bench.step, hm]⟩))
    | some m =>
      cases h : m.crypt data with
      | ok result =>
        exact .inr (.inl ⟨i, data, m, result.1, result.2, rfl, hm, h, by simp only [Bench.step, hm, h]⟩)
      | error failure =>
        exact .inr (.inr (.inr ⟨_, .inr ⟨failure, rfl⟩, by simp only [Bench.step, hm, h]⟩))
  | close => exact .inr (.inr (.inl ⟨rfl, rfl⟩))

/-- What is refused changes nothing. -/
theorem step_of_refused {b : Bench} {step : Step} {failure : Failure}
    (h : (b.step step).1 = .refused failure) : (b.step step).2 = b := by
  obtain ⟨iv, label, m, -, -, hstep⟩ | ⟨i, data, m, out, next, -, -, -, hstep⟩ | ⟨-, hstep⟩
    | ⟨reply, -, hstep⟩ := b.step_cases step
  · exact absurd h (by simp [hstep])
  · exact absurd h (by simp [hstep])
  · exact absurd h (by simp [hstep])
  · rw [hstep]

/-- Whatever is not sent through a mode leaves it alone. -/
theorem getElem?_modes_step {b : Bench} {i : Nat} (hi : i < b.modes.length) {step : Step}
    (hother : ∀ data, step ≠ .crypt i data) : (b.step step).2.modes[i]? = b.modes[i]? := by
  -- opening adds a mode behind, a piece changes its own mode, and nothing else touches one
  obtain ⟨iv, label, m, -, -, hstep⟩ | ⟨j, data, m, out, next, rfl, -, -, hstep⟩ | ⟨-, hstep⟩
    | ⟨reply, -, hstep⟩ := b.step_cases step
  · rw [hstep, List.getElem?_append_left hi]
  · have hj : j ≠ i := by
      rintro rfl
      exact hother data rfl
    rw [hstep, List.getElem?_set_ne hj]
  · rw [hstep]
  · rw [hstep]

/-- Only closing touches the cipher. -/
theorem cipher_step {b : Bench} {step : Step} (h : step ≠ .close) : (b.step step).2.cipher = b.cipher := by
  obtain ⟨iv, label, m, -, -, hstep⟩ | ⟨j, data, m, out, next, -, -, -, hstep⟩ | ⟨rfl, -⟩
    | ⟨reply, -, hstep⟩ := b.step_cases step
  · rw [hstep]
  · rw [hstep]
  · exact absurd rfl h
  · rw [hstep]

/-- A mode accepts whole blocks and refuses everything else. -/
theorem step_crypt {b : Bench} {i : Nat} {m : Mode} (hm : b.modes[i]? = some m) (data : Bytes) :
    ((0 < data.length ∧ 8 ∣ data.length) ∧ ∃ out, (b.step (.crypt i data)).1 = .data out)
      ∨ (¬ (0 < data.length ∧ 8 ∣ data.length)
        ∧ ∃ failure, (b.step (.crypt i data)).1 = .refused failure) := by
  rw [← m.exists_crypt_iff]
  cases h : m.crypt data with
  | ok result =>
    obtain ⟨out, next⟩ := result
    exact .inl ⟨⟨out, next, rfl⟩, out, by simp only [Bench.step, hm, h]⟩
  | error failure => exact .inr ⟨nofun, failure, by simp only [Bench.step, hm, h]⟩

/-- A mode is opened under a vector of one block, as long as there is a key. -/
theorem step_openMode (b : Bench) (iv : Bytes) (label : String) :
    ((b.cipher.keyed.isSome ∧ iv.length = 8) ∧ ∃ i m, (b.step (.openMode iv label)).1 = .opened i m)
      ∨ (¬ (b.cipher.keyed.isSome ∧ iv.length = 8)
        ∧ ∃ failure, (b.step (.openMode iv label)).1 = .refused failure) := by
  cases h : b.cipher.openMode iv label with
  | ok m =>
    obtain ⟨hkeyed, hvector, -⟩ := Cipher.openMode_eq_ok_iff.mp h
    refine .inl ⟨⟨by rw [hkeyed]; rfl, Block.exists_toList_eq_iff.mp ⟨_, hvector⟩⟩, ?_⟩
    exact ⟨b.modes.length, m, by simp only [Bench.step, h]⟩
  | error failure =>
    refine .inr ⟨fun ⟨hsome, hlen⟩ => ?_, failure, by simp only [Bench.step, h]⟩
    -- with a key and a block it would have been opened
    obtain ⟨keyed, hkeyed⟩ := Option.isSome_iff_exists.mp hsome
    obtain ⟨vector, hvector⟩ := Block.exists_toList_eq_iff.mpr hlen
    have hopen : b.cipher.openMode iv label = .ok ⟨keyed, label, vector⟩ :=
      Cipher.openMode_eq_ok_iff.mpr ⟨hkeyed, hvector, rfl⟩
    exact absurd (h.symm.trans hopen) (by simp)

/-! ### What a record says of a bench -/

/-- **A bench agrees with a record** of what was done with a block cipher. -/
structure Agrees (keyed : BlockCipher) (record : List (Step × Reply)) (b : Bench) : Prop where
  /-- The cipher has no other key. -/
  key : ∀ k, b.cipher.keyed = some k → k = keyed
  /-- Each mode is what its accepted data leaves of the mode that was opened. -/
  modes : ∀ i iv label m, (.openMode iv label, .opened i m) ∈ record →
    ∃ vector next, vector.toList = iv ∧ b.modes[i]? = some next
      ∧ Mode.Passes ⟨keyed, label, vector⟩ (sent i record) (received i record) next
  /-- Nothing went through a mode that was not opened. -/
  unopened : ∀ i, b.modes.length ≤ i → exchanged i record = []

namespace Agrees

variable {keyed : BlockCipher} {record : List (Step × Reply)} {b : Bench}

/-- A fresh bench agrees with an empty record. -/
theorem fresh {c : Cipher} (h : c.keyed = some keyed) : Agrees keyed [] (fresh c) where
  key _ hk := (Option.some.inj (h.symm.trans hk)).symm
  modes := nofun
  unopened _ _ := rfl

/-- **Modes that stay where they are**, when no data comes out. -/
theorem modes_of_ne (h : Agrees keyed record b) {b' : Bench} {step : Step} {reply : Reply}
    (hreply : ∀ out, reply ≠ .data out) (hmodes : ∀ i < b.modes.length, b'.modes[i]? = b.modes[i]?)
    {i : Nat} {iv : Bytes} {label : String} {m : Mode} (hmem : (.openMode iv label, .opened i m) ∈ record) :
    ∃ vector next, vector.toList = iv ∧ b'.modes[i]? = some next
      ∧ Mode.Passes ⟨keyed, label, vector⟩ (sent i (record ++ [(step, reply)]))
        (received i (record ++ [(step, reply)])) next := by
  obtain ⟨vector, next, hvector, hnext, hpasses⟩ := h.modes i iv label m hmem
  have hi : i < b.modes.length := (List.getElem?_eq_some_iff.mp hnext).1
  refine ⟨vector, next, hvector, (hmodes i hi).trans hnext, ?_⟩
  rwa [sent, received, exchanged_append_of_ne i record step hreply]

/-- Opening a mode keeps the agreement: it has exchanged nothing yet. -/
theorem opened (h : Agrees keyed record b) {iv : Bytes} {label : String} {m : Mode}
    (hopen : b.cipher.openMode iv label = .ok m) :
    Agrees keyed (record ++ [(.openMode iv label, .opened b.modes.length m)])
      { b with modes := b.modes ++ [m] } := by
  obtain ⟨hcipher, hvector, rfl⟩ := Cipher.openMode_eq_ok_iff.mp hopen
  refine ⟨h.key, fun i iv' label' m' hmem => ?_, fun i hi => ?_⟩
  · obtain hmem | hmem := List.mem_append.mp hmem
    · exact h.modes_of_ne (by simp) (fun i hi => List.getElem?_append_left hi) hmem
    · simp only [List.mem_singleton, Prod.mk.injEq, Step.openMode.injEq, Reply.opened.injEq] at hmem
      obtain ⟨⟨rfl, rfl⟩, rfl, rfl⟩ := hmem
      -- the mode starts with the key and the vector, and nothing went through its position before
      have hnone := h.unopened _ le_rfl
      refine ⟨m'.chain, m', hvector, List.getElem?_concat_length, ?_⟩
      rw [sent, received, exchanged_append_of_ne _ _ _ (by simp), hnone, ← h.key _ hcipher]
      exact .nil m'
  · rw [exchanged_append_of_ne _ _ _ (by simp)]
    rw [List.length_append] at hi
    exact h.unopened i (by omega)

/-- **A piece that passes a mode keeps the agreement.** -/
theorem crypted (h : Agrees keyed record b) {i : Nat} {data out : Bytes} {m next : Mode}
    (hm : b.modes[i]? = some m) (hcrypt : m.crypt data = .ok (out, next)) :
    Agrees keyed (record ++ [(.crypt i data, .data out)]) { b with modes := b.modes.set i next } := by
  have hi : i < b.modes.length := (List.getElem?_eq_some_iff.mp hm).1
  refine ⟨h.key, fun j iv label m' hmem => ?_, fun j hj => ?_⟩
  · obtain ⟨vector, before, hvector, hbefore, hpasses⟩ := h.modes j iv label m' (by simpa using hmem)
    rw [sent, received, exchanged_append_crypt]
    by_cases hij : i = j
    · -- the mode takes one more piece
      subst hij
      obtain rfl := Option.some.inj (hm.symm.trans hbefore)
      refine ⟨vector, next, hvector, List.getElem?_set_self hi, ?_⟩
      simpa [sent, received] using hpasses.crypt hcrypt
    · -- the piece is none of this mode's, which stays where it is
      refine ⟨vector, before, hvector, (List.getElem?_set_ne hij).trans hbefore, ?_⟩
      simpa [hij, sent, received] using hpasses
  · rw [List.length_set] at hj
    have hij : i ≠ j := by omega
    rw [exchanged_append_crypt, h.unopened j hj, if_neg hij, List.nil_append]

/-- A reply with neither a mode nor data in it says nothing about the modes. -/
theorem unchanged (h : Agrees keyed record b) {b' : Bench} {step : Step} {reply : Reply}
    (hkey : ∀ k, b'.cipher.keyed = some k → k = keyed) (hmodes : b'.modes = b.modes)
    (hopened : ∀ i m, reply ≠ .opened i m) (hdata : ∀ out, reply ≠ .data out) :
    Agrees keyed (record ++ [(step, reply)]) b' := by
  refine ⟨hkey, fun i iv label m hmem => ?_, fun i hi => ?_⟩
  · obtain hmem | hmem := List.mem_append.mp hmem
    · exact h.modes_of_ne hdata (fun i _ => by rw [hmodes]) hmem
    · obtain ⟨-, rfl⟩ := Prod.mk.inj (List.mem_singleton.mp hmem)
      exact absurd rfl (hopened i m)
  · rw [hmodes] at hi
    rw [exchanged_append_of_ne _ _ _ hdata, h.unopened i hi]

/-- **One step.** Of the modes it changes at most the one that it names, by the piece that it adds to the
record. -/
theorem step (h : Agrees keyed record b) (step : Step) :
    Agrees keyed (record ++ [(step, (b.step step).1)]) (b.step step).2 := by
  obtain ⟨iv, label, m, rfl, hopen, hstep⟩ | ⟨i, data, m, out, next, rfl, hm, hcrypt, hstep⟩ | ⟨rfl, hstep⟩
    | ⟨reply, hreply, hstep⟩ := b.step_cases step <;> rw [hstep]
  · exact h.opened hopen
  · exact h.crypted hm hcrypt
  · exact h.unchanged nofun rfl nofun nofun
  · obtain rfl | ⟨failure, rfl⟩ := hreply
    · exact h.unchanged h.key rfl nofun nofun
    · exact h.unchanged h.key rfl nofun nofun

end Agrees

/-- **All steps.** A bench agrees with the record of what was done at it. -/
theorem agrees_record {c : Cipher} {keyed : BlockCipher} (h : c.keyed = some keyed) (steps : List Step) :
    Agrees keyed ((fresh c).record steps) ((fresh c).after steps) := by
  induction steps using List.reverseRecOn with
  | nil => exact .fresh h
  | append_singleton steps step ih =>
    rw [record_append_singleton, after_append_singleton]
    exact ih.step step

/-- **The key is there until the first close**, and not afterwards. -/
theorem keyed_after (c : Cipher) (steps : List Step) :
    (.close ∉ steps → ((fresh c).after steps).cipher.keyed = c.keyed)
      ∧ (.close ∈ steps → ((fresh c).after steps).cipher.keyed = none) := by
  induction steps using List.reverseRecOn with
  | nil => exact ⟨fun _ => rfl, nofun⟩
  | append_singleton steps step ih =>
    rw [after_append_singleton]
    -- closing drops the key, and nothing brings it back
    by_cases hclose : step = .close
    · subst hclose
      exact ⟨fun h => absurd (List.mem_append_right steps (List.mem_singleton_self _)) h, fun _ => rfl⟩
    · rw [cipher_step hclose]
      have hmem : .close ∈ steps ++ [step] ↔ .close ∈ steps := by
        simp [Ne.symm hclose]
      rwa [hmem]

/-! ### Everything that is done at a bench -/

/-- **Modes that keep apart.** What holds of a bench at which steps were made with a block cipher, given their
record. -/
structure Chained (keyed : BlockCipher) (steps : List Step) (record : List (Step × Reply)) (b : Bench) :
    Prop where
  /-- All that came out of a mode is one run of chaining, under the key, in the mode's direction and from the
  mode's vector, over all that the mode accepted. -/
  one_run : ∀ i iv label m, (.openMode iv label, .opened i m) ∈ record →
    ∃ vector : Block, vector.toList = iv
      ∧ received i record = Cbc.Standard.octets keyed (Direction.ofLabel label) vector (sent i record)
  /-- A mode that was opened accepts a positive number of whole blocks and refuses everything else. -/
  accepts : ∀ i iv label m, (.openMode iv label, .opened i m) ∈ record → ∀ data,
    ((0 < data.length ∧ 8 ∣ data.length) ∧ ∃ out, (b.step (.crypt i data)).1 = .data out)
      ∨ (¬ (0 < data.length ∧ 8 ∣ data.length)
        ∧ ∃ failure, (b.step (.crypt i data)).1 = .refused failure)
  /-- A step that does not name a mode leaves it as it is. -/
  apart : ∀ i iv label m, (.openMode iv label, .opened i m) ∈ record → ∀ step,
    (∀ data, step ≠ .crypt i data) → (b.step step).2.modes[i]? = b.modes[i]?
  /-- A step that is refused changes nothing. -/
  refused : ∀ step failure, (b.step step).1 = .refused failure → (b.step step).2 = b
  /-- A mode can be opened under a vector of one block before the first close, and not otherwise. -/
  opens : ∀ iv label,
    ((.close ∉ steps ∧ iv.length = 8) ∧ ∃ i m, (b.step (.openMode iv label)).1 = .opened i m)
      ∨ (¬ (.close ∉ steps ∧ iv.length = 8)
        ∧ ∃ failure, (b.step (.openMode iv label)).1 = .refused failure)

/-- **Every mode chains its own data**, whatever steps are made and in whatever order. A cipher of either family
under any key that is accepted has one block cipher for all of them. -/
theorem record_chained {family : CipherFamily} {key : Bytes} {bits : Int} {c : Cipher}
    (hmade : Cipher.make family key bits = .ok c) :
    ∃ keyed, family.Under key bits keyed
      ∧ ∀ steps, Chained keyed steps ((fresh c).record steps) ((fresh c).after steps) := by
  obtain ⟨keyed, hunder, hkeyed⟩ := Cipher.exists_under hmade
  refine ⟨keyed, hunder, fun steps => ?_⟩
  -- all of it is read off the agreement that every record has with its bench
  have hagrees := agrees_record hkeyed steps
  obtain ⟨hopen, hclosed⟩ := keyed_after c steps
  refine ⟨fun i iv label m hmem => ?_, fun i iv label m hmem data => ?_,
    fun i iv label m hmem step hother => ?_, fun step failure => step_of_refused, fun iv label => ?_⟩
  -- what a mode exchanged is one chain from its vector on
  · obtain ⟨vector, next, hvector, -, hpasses⟩ := hagrees.modes i iv label m hmem
    exact ⟨vector, hvector, hpasses.eq_octets⟩
  · obtain ⟨vector, next, -, hnext, -⟩ := hagrees.modes i iv label m hmem
    exact step_crypt hnext data
  · obtain ⟨vector, next, -, hnext, -⟩ := hagrees.modes i iv label m hmem
    exact getElem?_modes_step (List.getElem?_eq_some_iff.mp hnext).1 hother
  · -- there is a key as long as nothing was closed
    have hsome : ((fresh c).after steps).cipher.keyed.isSome ↔ .close ∉ steps := by
      by_cases hclose : .close ∈ steps
      · simp [hclosed hclose, hclose]
      · simp [hopen hclose, hkeyed, hclose]
    rw [← hsome]
    exact step_openMode _ iv label

/-- Two modes in opposite directions from the same vector take turns; a piece of one octet is refused, and the
cipher is closed between the two blocks of the first mode. -/
theorem record_chained_taking_turns :
    ∃ c keyed, Cipher.make .rc2 [1, 2, 3, 4, 5] 40 = .ok c ∧ CipherFamily.rc2.Under [1, 2, 3, 4, 5] 40 keyed
      ∧ received 0 ((fresh c).record [.openMode (List.replicate 8 0) "encrypt",
          .openMode (List.replicate 8 0) "decrypt", .crypt 0 (List.replicate 8 1), .crypt 0 [2],
          .crypt 1 (List.replicate 8 3), .close, .crypt 0 (List.replicate 8 4)])
        = Cbc.Standard.octets keyed .encrypt (Vector.replicate 8 0)
          (List.replicate 8 1 ++ List.replicate 8 4) := by
  obtain ⟨keyed, hunder, hchained⟩ := record_chained (rfl : Cipher.make .rc2 [1, 2, 3, 4, 5] 40 = .ok _)
  refine ⟨_, keyed, rfl, hunder, ?_⟩
  obtain ⟨vector, hvector, hrun⟩ := (hchained [.openMode (List.replicate 8 0) "encrypt",
    .openMode (List.replicate 8 0) "decrypt", .crypt 0 (List.replicate 8 1), .crypt 0 [2],
    .crypt 1 (List.replicate 8 3), .close, .crypt 0 (List.replicate 8 4)]).one_run
    0 (List.replicate 8 0) "encrypt" _ (List.Mem.head _)
  obtain rfl : vector = Vector.replicate 8 0 := Vector.toList_inj.mp hvector
  exact hrun

end Shroud.Bench
