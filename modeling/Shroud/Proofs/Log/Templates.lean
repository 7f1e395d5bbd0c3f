import Shroud.Proofs.Log.Writable

/-!
# Messages of plain templates

A template is plain if nothing stands in its placeholders but their letters. It is spelled by a row of words
(`Template.Word`), each a character or a placeholder, and its pieces are these words again (`Template.pieces_spelled`),
since the letters of placeholders are no flags, no digits, and no other signs that a reader would go on behind.

So what becomes of a plain template can be said without the reader. It has a message exactly if it has as many
placeholders as there are arguments, and each of them can show its own (`Template.exists_render_iff`, by induction on
the words). For placeholders of texts this comes down to arguments that fit (`LogFormat.hasMessage_iff_of_texts`).

What a placeholder shows takes its width, and no more room than that or its own length (`Layout.length_spread`).
-/

namespace Shroud

/-- **A text in its width** is as long as the width, or as the text if that is longer. -/
theorem Layout.length_spread (l : Layout) (zeros : Bool) (sign marker body : List Char) :
    (l.spread zeros sign marker body).length = max l.width (sign ++ marker ++ body).length := by
  unfold spread
  dsimp only
  split
  · rw [List.length_append, List.length_replicate]
    omega
  · split <;> simp only [List.length_append, List.length_replicate] <;> omega

namespace Template

/-! ### Words -/

/-- A word of a plain template. -/
inductive Word where
  | character (c : Char)
  | argument (letter : Char)

/-- The letters of placeholders. -/
def letters : List Char :=
  ['s', 'r', 'a', 'd', 'i', 'u', 'o', 'x', 'X', 'e', 'E', 'f', 'F', 'g', 'G', 'c']

namespace Word

/-- The characters of a word. -/
def spelling : Word → List Char
  | character c => if c = '%' then ['%', '%'] else [c]
  | argument letter => ['%', letter]

/-- The piece that a word is read as. -/
def piece : Word → Piece
  | character c => .character c
  | argument letter => .placeholder { letter := some letter }

/-- The letter of a placeholder. -/
def letter? : Word → Option Char
  | character _ => none
  | argument letter => some letter

end Word

/-- The template that words spell. -/
def spelled (words : List Word) : String :=
  String.ofList (words.flatMap Word.spelling)

variable {words : List Word} {vs : List Value}

/-- A letter directly behind a percent sign completes a placeholder. -/
theorem step_letter {c : Char} (h : c ∈ letters) :
    Reader.start.step c = (.text, [.placeholder { letter := some c }]) := by
  simp only [letters, List.mem_cons, List.not_mem_nil, or_false] at h
  rcases h with rfl | rfl | rfl | rfl | rfl | rfl | rfl | rfl | rfl | rfl | rfl | rfl | rfl | rfl | rfl | rfl <;> rfl

/-- **The pieces of a plain template** are its words. -/
theorem pieces_spelled (hletters : ∀ letter ∈ words.filterMap Word.letter?, letter ∈ letters) :
    Reader.text.pieces (words.flatMap Word.spelling) = words.map Word.piece := by
  induction words with
  | nil => rfl
  | cons word words ih =>
    rw [List.flatMap_cons, List.map_cons]
    cases word with
    | character c =>
      have hrest := ih hletters
      by_cases hc : c = '%'
      · subst hc
        -- the first percent sign opens a placeholder, the second one takes it back
        change Piece.character '%' :: Reader.text.pieces (words.flatMap Word.spelling) = _
        rw [hrest]
        rfl
      · rw [Word.spelling, if_neg hc, List.singleton_append, Reader.pieces, Reader.step, if_neg hc, hrest]
        rfl
    | argument letter =>
      obtain ⟨hletter, hothers⟩ := List.forall_mem_cons.mp hletters
      change (Reader.start.step letter).2 ++ (Reader.start.step letter).1.pieces (words.flatMap Word.spelling) = _
      rw [step_letter hletter, ih hothers]
      rfl

/-! ### Messages -/

/-- A placeholder that is only a letter takes the next argument. -/
theorem fill_argument (letter : Char) (v : Value) (vs : List Value) (names : Option (List (Value × Value))) :
    Piece.fill (Word.argument letter).piece ⟨v :: vs, names⟩
      = (Layout.shown {} letter v).map fun text => (text, ⟨vs, names⟩) := by
  change (Layout.shown {} letter v >>= fun text => pure (text, _)) = _
  cases Layout.shown {} letter v <;> rfl

/-- Without an argument there is nothing for it to take. -/
theorem fill_argument_nil (letter : Char) :
    Piece.fill (Word.argument letter).piece { next := [] } = .error .arguments := rfl

/-- **Words are filled**, with nothing left over, exactly if the placeholders in them can show the arguments, one by
one. -/
theorem exists_fill_iff :
    (∃ text, fill (words.map Word.piece) { next := vs } = .ok (text, { next := [] }))
      ↔ List.Forall₂ (fun letter v => ∃ text, Layout.shown {} letter v = .ok text)
        (words.filterMap Word.letter?) vs := by
  induction words generalizing vs with
  | nil =>
    rw [List.filterMap_nil, List.forall₂_nil_left_iff]
    constructor
    · rintro ⟨text, h⟩
      obtain ⟨rfl, hleft⟩ := Prod.mk.inj (Except.ok.inj h)
      exact congrArg Supply.next hleft
    · rintro rfl
      exact ⟨[], rfl⟩
  | cons word words ih =>
    cases word with
    -- characters use up no argument,
    | character c =>
      rw [List.map_cons, List.filterMap_cons_none rfl, ← ih, fill]
      change (∃ text, (fill (words.map Word.piece) _ >>= _) = _) ↔ _
      simp only [bind_eq_ok_iff, pure_eq_ok_iff, Prod.exists, Prod.mk.injEq]
      constructor
      · rintro ⟨_, text, _, htext, _, rfl⟩
        exact ⟨text, htext⟩
      · rintro ⟨text, htext⟩
        exact ⟨_, text, _, htext, rfl, rfl⟩
    -- and each directive uses up one
    | argument letter =>
      have hcons : (Word.argument letter :: words).filterMap Word.letter?
          = letter :: words.filterMap Word.letter? := rfl
      rw [List.map_cons, hcons, fill]
      cases vs with
      | nil =>
        rw [fill_argument_nil, List.forall₂_nil_right_iff]
        exact iff_of_false (fun ⟨_, h⟩ => nomatch h) (List.cons_ne_nil _ _)
      | cons v vs =>
        rw [fill_argument, List.forall₂_cons, ← ih]
        simp only [bind_eq_ok_iff, map_eq_ok_iff, pure_eq_ok_iff, Prod.exists, Prod.mk.injEq]
        constructor
        · rintro ⟨_, _, _, ⟨shown, hshown, rfl, rfl⟩, text, _, htext, _, rfl⟩
          exact ⟨⟨shown, hshown⟩, text, htext⟩
        · rintro ⟨⟨shown, hshown⟩, text, htext⟩
          exact ⟨_, _, _, ⟨shown, hshown, rfl, rfl⟩, text, _, htext, rfl, rfl⟩

/-- No placeholder without a name looks at the names of the arguments. -/
theorem names_of_fill {s : Supply} {text : List Char} {left : Supply}
    (h : fill (words.map Word.piece) s = .ok (text, left)) : left.names = s.names := by
  induction words generalizing s text with
  | nil =>
    obtain ⟨-, rfl⟩ := Prod.mk.inj (Except.ok.inj h)
    rfl
  | cons word words ih =>
    obtain ⟨⟨shown, between⟩, hword, h⟩ := bind_eq_ok_iff.mp h
    obtain ⟨⟨shownRest, last⟩, hrest, h⟩ := bind_eq_ok_iff.mp h
    obtain ⟨-, rfl⟩ := Prod.mk.inj (pure_eq_ok_iff.mp h)
    -- every word leaves the names as they are
    rw [ih hrest]
    cases word with
    | character c =>
      obtain ⟨-, rfl⟩ := Prod.mk.inj (Except.ok.inj hword)
      rfl
    | argument letter =>
      obtain ⟨next, names⟩ := s
      cases next with
      | nil => exact nomatch hword
      | cons v vs =>
        rw [List.map_cons, fill_argument] at *
        obtain ⟨_, -, h⟩ := map_eq_ok_iff.mp hword
        obtain ⟨-, rfl⟩ := Prod.mk.inj h
        rfl

/-- **Which plain templates have a message**: those with a placeholder for each argument that can show it, and no other.
A single dictionary is no row of arguments, and without arguments a template is taken as it is. -/
theorem exists_render_iff (hletters : ∀ letter ∈ words.filterMap Word.letter?, letter ∈ letters) (hsome : vs ≠ [])
    (hrow : ∀ entry entries, vs ≠ [.dict (entry :: entries)]) :
    (∃ message, render (spelled words) vs = .ok message)
      ↔ List.Forall₂ (fun letter v => ∃ text, Layout.shown {} letter v = .ok text)
        (words.filterMap Word.letter?) vs := by
  -- the arguments are no single dictionary, so they are a row
  have hsupply : Supply.ofArguments vs = { next := vs } := by
    unfold Supply.ofArguments
    split
    · next entry entries => exact absurd rfl (hrow entry entries)
    · rfl
  have hnonempty : vs.isEmpty = false := by simpa using hsome
  rw [← exists_fill_iff, render, hnonempty, if_neg Bool.false_ne_true, spelled, String.toList_ofList,
    pieces_spelled hletters, hsupply]
  constructor
  · rintro ⟨message, h⟩
    obtain ⟨⟨text, ⟨next, names⟩⟩, hfill, h⟩ := bind_eq_ok_iff.mp h
    obtain rfl : names = none := names_of_fill hfill
    -- arguments that are left over are refused
    cases next with
    | nil => exact ⟨text, hfill⟩
    | cons v rest => exact nomatch h
  · rintro ⟨text, hfill⟩
    rw [hfill]
    exact ⟨_, rfl⟩

/-- **Three letters show texts**, of every value that fits. -/
theorem exists_shown_iff_fits {letter : Char} (hletter : letter ∈ ['s', 'r', 'a']) (l : Layout) (v : Value) :
    (∃ text, l.shown letter v = .ok text) ↔ v.fits = true := by
  simp only [List.mem_cons, List.not_mem_nil, or_false] at hletter
  rcases hletter with rfl | rfl | rfl
  · rw [← isOk_iff, Layout.shown, isOk_map, Value.isOk_display]
  · rw [← isOk_iff, Layout.shown, isOk_map, Value.isOk_inspect]
  · rw [← isOk_iff, Layout.shown, isOk_map, Value.isOk_inspect]

/-- A row of such letters shows a row of values exactly if there are as many of one as of the other, and all values
fit. -/
theorem forall₂_shown_iff {row : List Char} (hrow : ∀ letter ∈ row, letter ∈ ['s', 'r', 'a']) :
    List.Forall₂ (fun letter v => ∃ text, Layout.shown {} letter v = .ok text) row vs
      ↔ row.length = vs.length ∧ ∀ v ∈ vs, v.fits = true := by
  induction row generalizing vs with
  | nil =>
    rw [List.forall₂_nil_left_iff, List.length_nil, @eq_comm _ 0, List.length_eq_zero_iff]
    exact ⟨fun h => ⟨h, by simp [h]⟩, And.left⟩
  | cons letter row ih =>
    obtain ⟨hletter, hothers⟩ := List.forall_mem_cons.mp hrow
    cases vs with
    | nil => simp
    | cons v vs =>
      rw [List.forall₂_cons, exists_shown_iff_fits hletter, ih hothers, List.length_cons, List.length_cons,
        List.forall_mem_cons, Nat.add_right_cancel_iff]
      exact and_left_comm

end Template

open Template in
/-- **Messages of texts.** A record whose template has none but these placeholders has a message exactly if there are as
many of them as arguments, and all arguments fit. -/
theorem LogFormat.hasMessage_iff_of_texts {r : Record} {words : List Word} (htemplate : r.template = spelled words)
    (hletters : ∀ letter ∈ words.filterMap Word.letter?, letter ∈ ['s', 'r', 'a']) (hsome : r.arguments ≠ [])
    (hrow : ∀ entry entries, r.arguments ≠ [.dict (entry :: entries)]) :
    HasMessage r ↔ (words.filterMap Word.letter?).length = r.arguments.length ∧ ∀ v ∈ r.arguments, v.fits = true := by
  have hknown : ['s', 'r', 'a'] ⊆ letters := List.IsPrefix.subset ⟨_, rfl⟩
  rw [HasMessage, htemplate, exists_render_iff (fun letter h => hknown (hletters letter h)) hsome hrow,
    forall₂_shown_iff hletters]

end Shroud
