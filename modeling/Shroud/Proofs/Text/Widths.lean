import Shroud.Value.Printer

/-!
# Widths of texts

How long a text is that was put together from others depends on how many they are and on how long they are together
(`Text.width`), and on nothing else. This holds of items in brackets (`Text.IsFrame`), and each change in the width
shows in the length (`Text.IsFrame.length_ne`).

Of octets in quotes the length depends on the octets themselves: a letter stands for itself, others are escaped.
-/

namespace Shroud.Text

/-- How many characters texts have together. -/
def width : List String → Nat
  | [] => 0
  | text :: rest => text.length + width rest

theorem width_cons (text : String) (rest : List String) : width (text :: rest) = text.length + width rest := rfl

/-- Between texts there is one separator less than there are texts. -/
theorem length_intercalate (separator : String) (texts : List String) :
    (separator.intercalate texts).length = width texts + separator.length * (texts.length - 1) := by
  induction texts with
  | nil => rfl
  | cons text rest ih =>
    cases rest with
    | nil => simp [width]
    | cons next others =>
      -- the separator behind the first text is the one more that the rest does not count
      rw [String.intercalate_cons_cons, String.length_append, String.length_append, ih, width_cons text]
      simp only [List.length_cons, Nat.add_sub_cancel, Nat.mul_succ]
      omega

/-- What is put around texts takes as much room around as many other texts. -/
def IsFrame (frame : List String → String) : Prop :=
  ∃ extra : Nat → Nat, ∀ texts, (frame texts).length = width texts + extra texts.length

namespace IsFrame

/-- Items in brackets are in a frame: the brackets, and a separator between each two of them. -/
theorem enclosed (opening closing : String) : IsFrame (Value.enclosed opening closing) := by
  refine ⟨fun n => opening.length + ", ".length * (n - 1) + closing.length, fun texts => ?_⟩
  rw [Value.enclosed, String.length_append, String.length_append, length_intercalate]
  ac_rfl

/-- So are items in parentheses, where a single item has a comma behind it. -/
theorem parenthesized : IsFrame Value.parenthesized := by
  obtain ⟨extra, hextra⟩ := enclosed "(" ")"
  -- a single text has a comma behind it
  refine ⟨fun n => if n = 1 then 3 else extra n, fun texts => ?_⟩
  match texts with
  | [] => exact hextra []
  | [text] =>
    change ("(" ++ text ++ ",)").length = (text.length + 0) + 3
    rw [String.length_append, String.length_append]
    exact Nat.add_comm 1 text.length ▸ rfl
  | first :: second :: rest => exact hextra (first :: second :: rest)

/-- **A change in the width shows in the length**, as long as there are as many texts. -/
theorem length_ne {frame : List String → String} (h : IsFrame frame) {ss ts : List String}
    (hcount : ss.length = ts.length) (hwidth : width ss ≠ width ts) :
    (frame ss).length ≠ (frame ts).length := by
  obtain ⟨extra, hextra⟩ := h
  -- there is as much around the one as around the other, so the widths are what is left
  rw [hextra, hextra, hcount]
  omega

end IsFrame

/-- Equal octets are quoted with room for each and for the quotes. -/
theorem length_quotedBytes_replicate (n : Nat) {b : UInt8} (h : Char.ofNat b.toNat ≠ '\x27') :
    (quotedBytes (List.replicate n b)).length = n * (quotedOctet '\x27' b).length + 3 := by
  have hquote : quoteFor ((List.replicate n b).map fun b => Char.ofNat b.toNat) = '\x27' := by
    rw [quoteFor, if_neg]
    rw [List.map_replicate]
    simp [List.mem_replicate, Ne.symm h]
  rw [quotedBytes, hquote, String.length_ofList]
  simp

/-- The same for a buffer, which is quoted inside its own word and is never quoted otherwise. -/
theorem length_quotedBuffer_replicate (n : Nat) (b : UInt8) :
    (quotedBuffer (List.replicate n b)).length = n * (quotedOctet '\x27' b).length + 3 := by
  rw [quotedBuffer, String.length_ofList]
  simp

end Shroud.Text
