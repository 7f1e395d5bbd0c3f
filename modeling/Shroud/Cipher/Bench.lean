import Shroud.Cipher.Keyed

/-!
# A cipher at work

A `Bench` is a cipher together with the modes that were opened with it. Modes may be opened, used and the
cipher closed in any order: every mode goes on by itself, also after the cipher is closed, and a step that
is refused changes nothing.
-/

namespace Shroud

/-- A cipher and the modes that were opened with it, in order. -/
structure Bench where
  cipher : Cipher
  modes : List Mode := []

namespace Bench

/-- What can be done next. -/
inductive Step where
  /-- Open a mode under a vector, in the direction that a word asks for. -/
  | openMode (iv : Bytes) (label : String)
  /-- Send data through the mode at a position. -/
  | crypt (index : Nat) (data : Bytes)
  /-- Drop the key. -/
  | close

/-- What a step gives. -/
inductive Reply where
  /-- A mode was opened at a position. -/
  | opened (index : Nat) (mode : Mode)
  /-- The data that came out of a mode. -/
  | data (bs : Bytes)
  /-- The key was dropped. -/
  | closed
  /-- There is no mode at the position. -/
  | noMode
  /-- The step was refused. -/
  | refused (failure : Failure)

/-- **One step.** -/
def step (b : Bench) : Step → Reply × Bench
  | .openMode iv label =>
    match b.cipher.openMode iv label with
    | .ok mode => (.opened b.modes.length mode, { b with modes := b.modes ++ [mode] })
    | .error failure => (.refused failure, b)
  | .crypt index data =>
    match b.modes[index]? with
    | none => (.noMode, b)
    | some mode =>
      match mode.crypt data with
      | .ok (result, next) => (.data result, { b with modes := b.modes.set index next })
      | .error failure => (.refused failure, b)
  | .close => (.closed, { b with cipher := b.cipher.close })

end Bench

end Shroud
