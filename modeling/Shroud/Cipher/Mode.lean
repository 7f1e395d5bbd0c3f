import Shroud.Cipher.Cbc
import Shroud.Failure

/-!
# Chaining modes

A mode runs a block cipher in cipher block chaining in one direction. It carries its chaining block
from call to call, so that data may come in several pieces of whole blocks; a refused piece changes
nothing. The direction is asked for by a word, which the mode keeps: `encrypt` encrypts, and every other
word decrypts (`Direction.ofLabel`). `Direction.ofName?` knows only the two words.
-/

namespace Shroud

/-- The direction of a mode. -/
inductive Direction where
  | encrypt
  | decrypt
  deriving DecidableEq, Repr

namespace Direction

/-- The word for a direction. -/
def label : Direction → String
  | encrypt => "encrypt"
  | decrypt => "decrypt"

/-- Both directions. -/
def all : List Direction := [encrypt, decrypt]

/-- The direction with exactly this word. -/
def ofName? (s : String) : Option Direction :=
  all.find? (·.label == s)

/-- The direction that a word asks for. -/
def ofLabel (s : String) : Direction :=
  if s = "encrypt" then encrypt else decrypt

end Direction

/-- Refuses data that is empty or not a whole number of blocks. -/
def checkAligned (length : Nat) (blockSize : Int) : Except Failure Unit :=
  if length = 0 then .error (.length .empty)
  else if blockSize = 0 then .error (.misuse .zeroBlockSize)
  else if (length : Int) % blockSize ≠ 0 then
    .error (Failure.length (.unaligned length blockSize)).checked
  else .ok ()

/-- A block cipher in chaining mode. -/
structure Mode where
  cipher : BlockCipher
  /-- The word that asked for the direction. -/
  label : String
  /-- The block that the next one is chained to. -/
  chain : Block

namespace Mode

/-- The direction of the mode. -/
def direction (m : Mode) : Direction :=
  Direction.ofLabel m.label

/-- The result for whole blocks, and the mode that goes on after them. -/
def cryptBlocks (m : Mode) (blocks : List Block) : List Block × Mode :=
  match m.direction with
  | .encrypt =>
    let result := Cbc.encrypt m.cipher.encrypt m.chain blocks
    (result, { m with chain := Cbc.chainAfter m.chain result })
  | .decrypt =>
    (Cbc.decrypt m.cipher.decrypt m.chain blocks, { m with chain := Cbc.chainAfter m.chain blocks })

/-- **One piece of data.** It has to be a positive number of whole blocks. -/
def crypt (m : Mode) (data : Bytes) : Except Failure (Bytes × Mode) :=
  match checkAligned data.length blockSize with
  | .error failure => .error failure
  | .ok () =>
    let (result, next) := m.cryptBlocks (Block.blocksOf data)
    .ok (Block.octetsOf result, next)

end Mode

end Shroud
