/-!
# Faults of elements

Why an element cannot be read as what it should be, or cannot be written anew.
-/

namespace Shroud.Ber

/-- Why an element cannot be read or written. -/
inductive Fault where
  /-- The octets do not follow the grammar. -/
  | malformed
  /-- A bit string lacks the octet that counts its unused bits. -/
  | noUnusedCount
  /-- The octets of a text are none in its character set. -/
  | undecodable
  /-- The members of an enumeration are not known. -/
  | unlisted
  /-- The type has no form in which its values are written anew. -/
  | formless
  /-- A moment falls outside all calendar years. -/
  | outOfCalendar
  deriving DecidableEq, Repr

end Shroud.Ber
