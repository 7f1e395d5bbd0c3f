import Shroud.Proofs.Log.Blanking
import Shroud.Proofs.Text.Widths

/-!
# How far masking reaches

Lines conceal what no line may tell if masking reaches all of it, and where it does not, a line for people tells
(`LogFormat.conceals_exactly`). Masking does not go into lists and tuples. What they hold is written as it is: a
password in a dictionary that is an item of a list stands in the line (`LogFormat.shown_inside_list`).

That a line tells is shown by its length. A text betrays something (`Mask.Betrays`) if something else, of which
blanking leaves the same, is written in another length. What is hidden under the name of a sensitive field can be
exchanged for a null or a truth value, and octets for letters or zeros, and one of the two is longer or shorter than
what was there. From there it goes up: a sequence betrays what one of its items betrays
(`Mask.Itemwise.betrayAmong_cons`, `Mask.BetrayAmong.framed`), an entry what its value betrays
(`Mask.Betrays.between`), and so on to the line.
-/

namespace Shroud

namespace Mask

section Betrays

variable {α β : Type}

/-- What is written of `a` depends on what is blanked in it: something that is blanked to the same is written in
another length. -/
def Betrays (blank : α → α) (text : α → Except RenderFault String) (a : α) : Prop :=
  ∀ t, text a = .ok t → ∃ a' t', blank a' = blank a ∧ text a' = .ok t' ∧ t'.length ≠ t.length

/-- The same of items: others that are blanked to the same are written in as many texts, of another width. -/
def BetrayAmong (blanks : List α → List α) (texts : List α → Except RenderFault (List String)) (as : List α) :
    Prop :=
  ∀ ts, texts as = .ok ts →
    ∃ as' ts', blanks as' = blanks as ∧ texts as' = .ok ts' ∧ ts'.length = ts.length ∧ Text.width ts' ≠ Text.width ts

/-- Items are blanked and written one by one. -/
structure Itemwise (blank : α → α) (blanks : List α → List α) (text : α → Except RenderFault String)
    (texts : List α → Except RenderFault (List String)) : Prop where
  blanks_cons : ∀ a as, blanks (a :: as) = blank a :: blanks as
  texts_cons : ∀ a as ts, texts (a :: as) = .ok ts ↔ ∃ t rest, text a = .ok t ∧ texts as = .ok rest ∧ t :: rest = ts

variable {blank : α → α} {blanks : List α → List α} {text : α → Except RenderFault String}
  {texts : List α → Except RenderFault (List String)}

/-- One item that betrays is enough. -/
theorem Itemwise.betrayAmong_cons (h : Itemwise blank blanks text texts) {a : α} {as : List α}
    (hbetray : Betrays blank text a ∨ BetrayAmong blanks texts as) : BetrayAmong blanks texts (a :: as) := by
  intro ts hts
  obtain ⟨t, rest, ht, hrest, rfl⟩ := (h.texts_cons a as ts).mp hts
  -- change the item that betrays itself, and leave the others as they are
  rcases hbetray with hfirst | hothers
  · obtain ⟨a', t', hblank, ht', hne⟩ := hfirst t ht
    refine ⟨a' :: as, t' :: rest, ?_, (h.texts_cons ..).mpr ⟨t', rest, ht', hrest, rfl⟩, rfl, ?_⟩
    · rw [h.blanks_cons, h.blanks_cons, hblank]
    · rw [Text.width_cons, Text.width_cons]
      omega
  · obtain ⟨as', rest', hblank, hrest', hcount, hne⟩ := hothers rest hrest
    refine ⟨a :: as', t :: rest', ?_, (h.texts_cons ..).mpr ⟨t, rest', ht, hrest', rfl⟩, ?_, ?_⟩
    · rw [h.blanks_cons, h.blanks_cons, hblank]
    · rw [List.length_cons, List.length_cons, hcount]
    · rw [Text.width_cons, Text.width_cons]
      omega

/-- What is made of items and written with a frame around their texts. -/
theorem BetrayAmong.framed {as : List α} (h : BetrayAmong blanks texts as) (made : List α → β) {blank' : β → β}
    {text' : β → Except RenderFault String} {frame : List String → String} (hframe : Text.IsFrame frame)
    (hblank : ∀ as', blanks as' = blanks as → blank' (made as') = blank' (made as))
    (htext : ∀ as' t, text' (made as') = .ok t ↔ ∃ ts, texts as' = .ok ts ∧ frame ts = t) :
    Betrays blank' text' (made as) := by
  intro t ht
  obtain ⟨ts, hts, rfl⟩ := (htext as t).mp ht
  obtain ⟨as', ts', heq, hts', hcount, hwidth⟩ := h ts hts
  exact ⟨made as', frame ts', hblank as' heq, (htext as' _).mpr ⟨ts', hts', rfl⟩, hframe.length_ne hcount hwidth⟩

/-- What is written with something in front and something behind. -/
theorem Betrays.between {a : α} (h : Betrays blank text a) (made : α → β)
    (around : Except RenderFault (String × String)) {blank' : β → β} {text' : β → Except RenderFault String}
    (hblank : ∀ a', blank a' = blank a → blank' (made a') = blank' (made a))
    (htext : ∀ a' s, text' (made a') = .ok s ↔
      ∃ ends t, around = .ok ends ∧ text a' = .ok t ∧ ends.1 ++ t ++ ends.2 = s) :
    Betrays blank' text' (made a) := by
  intro s hs
  obtain ⟨ends, t, hends, ht, rfl⟩ := (htext a s).mp hs
  obtain ⟨a', t', heq, ht', hne⟩ := h t ht
  refine ⟨made a', ends.1 ++ t' ++ ends.2, hblank a' heq, (htext a' _).mpr ⟨ends, t', hends, ht', rfl⟩, ?_⟩
  simp only [String.length_append]
  omega

/-- Only the texts of what is blanked to the same matter. -/
theorem Betrays.congr {a : α} (h : Betrays blank text a) {text' : α → Except RenderFault String}
    (htext : ∀ a', blank a' = blank a → text' a' = text a') : Betrays blank text' a := by
  intro t ht
  rw [htext a rfl] at ht
  obtain ⟨a', t', hblank, ht', hne⟩ := h t ht
  exact ⟨a', t', hblank, (htext a' hblank).trans ht', hne⟩

end Betrays

/-! #### Entries and fields -/

/-- What is written of one entry of a dictionary. -/
def inspectEntry : Value × Value → Except RenderFault String
  | (k, v) => do
    let key ← k.inspect
    let value ← v.inspect
    return key ++ ": " ++ value

/-- What is written of one entry of a dictionary that was masked. -/
def maskedEntry : Value × Value → Except RenderFault String
  | (k, v) => do
    let shown ← shownUnder k v
    inspectEntry (k, shown)

/-- What is written for people of one field. -/
def maskedField : String × Value → Except RenderFault String
  | (name, v) => do
    let shown ← shown name v
    let text ← shown.display
    return name ++ "=" ++ text

theorem itemwise_inspectAll : Itemwise blank blankAll Value.inspect Value.inspectAll where
  blanks_cons _ _ := rfl
  texts_cons v vs ts := by
    rw [Value.inspectAll]
    simp only [bind_eq_ok_iff, pure_eq_ok_iff]
    constructor
    · rintro ⟨t, ht, rest, hrest, h⟩
      exact ⟨t, rest, ht, hrest, h⟩
    · rintro ⟨t, rest, ht, hrest, rfl⟩
      exact ⟨t, ht, rest, hrest, rfl⟩

theorem itemwise_inspectEntries : Itemwise blankEntry blankEntries inspectEntry Value.inspectEntries where
  blanks_cons _ _ := rfl
  texts_cons entry rest ts := by
    obtain ⟨k, v⟩ := entry
    rw [Value.inspectEntries, inspectEntry]
    simp only [bind_eq_ok_iff, pure_eq_ok_iff]
    constructor
    · rintro ⟨key, hkey, shown, hshown, others, hothers, h⟩
      exact ⟨_, others, ⟨key, hkey, shown, hshown, rfl⟩, hothers, h⟩
    · rintro ⟨_, others, ⟨key, hkey, shown, hshown, rfl⟩, hothers, rfl⟩
      exact ⟨key, hkey, shown, hshown, others, hothers, rfl⟩

/-- Masking entries and then writing them goes entry by entry. -/
theorem itemwise_maskedEntries :
    Itemwise blankEntry blankEntries maskedEntry (fun es => entries es >>= Value.inspectEntries) where
  blanks_cons _ _ := rfl
  texts_cons entry rest ts := by
    obtain ⟨k, v⟩ := entry
    -- masking goes first over all of them, so the two rows are split at the same item
    simp only [entries_cons, maskedEntry, bind_eq_ok_iff, pure_eq_ok_iff]
    constructor
    · rintro ⟨_, ⟨shown, hshown, others, hothers, rfl⟩, hts⟩
      obtain ⟨t, rest, ht, hrest, h⟩ := (itemwise_inspectEntries.texts_cons ..).mp hts
      exact ⟨t, rest, ⟨shown, hshown, ht⟩, ⟨others, hothers, hrest⟩, h⟩
    · rintro ⟨t, rest, ⟨shown, hshown, ht⟩, ⟨others, hothers, hrest⟩, h⟩
      have hts := (itemwise_inspectEntries.texts_cons (k, shown) others ts).mpr ⟨t, rest, ht, hrest, h⟩
      exact ⟨_, ⟨shown, hshown, others, hothers, rfl⟩, hts⟩

/-- Masking fields and then assigning them goes field by field. -/
theorem itemwise_maskedFields :
    Itemwise blankField blankFields maskedField (fun fs => fields fs >>= LogFormat.assignments) where
  blanks_cons _ _ := rfl
  texts_cons field rest ts := by
    obtain ⟨name, v⟩ := field
    simp only [fields_cons, maskedField, bind_eq_ok_iff, pure_eq_ok_iff]
    constructor
    · rintro ⟨_, ⟨shown, hshown, others, hothers, rfl⟩, hts⟩
      rw [LogFormat.assignments] at hts
      simp only [bind_eq_ok_iff, pure_eq_ok_iff] at hts
      obtain ⟨t, ht, texts, htexts, h⟩ := hts
      exact ⟨_, texts, ⟨shown, hshown, t, ht, rfl⟩, ⟨others, hothers, htexts⟩, h⟩
    · rintro ⟨_, texts, ⟨shown, hshown, t, ht, rfl⟩, ⟨others, hothers, htexts⟩, rfl⟩
      refine ⟨_, ⟨shown, hshown, others, hothers, rfl⟩, ?_⟩
      rw [LogFormat.assignments, ht, htexts]
      rfl

/-! #### Values -/

/-- Octets other than none betray themselves by the length of their text: one of them may need an escape. -/
theorem betrays_octets {quote : Bytes → String}
    (hquote : ∀ n b, Char.ofNat b.toNat ≠ '\x27' →
      (quote (List.replicate n b)).length = n * (Text.quotedOctet '\x27' b).length + 3)
    {bs : Bytes} (h : bs ≠ []) : Betrays Bytes.wiped (fun bs => .ok (quote bs)) bs := by
  intro t _
  have hlength : bs.length ≠ 0 := mt List.length_eq_zero_iff.mp h
  have hwiped : ∀ b, Bytes.wiped (List.replicate bs.length b) = Bytes.wiped bs := by
    intro b
    rw [Bytes.wiped, List.length_replicate, Bytes.wiped]
  -- a letter stands for itself, and zero is written by its number
  by_cases hletter : t.length = bs.length * 1 + 3
  · refine ⟨_, _, hwiped 0, rfl, ?_⟩
    rw [hquote _ 0 (by decide), hletter]
    change bs.length * 4 + 3 ≠ bs.length * 1 + 3
    omega
  · refine ⟨_, _, hwiped 97, rfl, ?_⟩
    rw [hquote _ 97 (by decide)]
    exact Ne.symm hletter

theorem betrays_bytes {bs : Bytes} (h : bs ≠ []) : Betrays blank Value.inspect (.bytes bs) := by
  refine (betrays_octets (fun n _ => Text.length_quotedBytes_replicate n) h).between Value.bytes (.ok ("", "")) ?_ ?_
  · intro other hother
    rw [blank, blank, hother]
  · intro other s
    simp [Value.inspect, eq_comm]

theorem betrays_buffer {bs : Bytes} (h : bs ≠ []) : Betrays blank Value.inspect (.buffer bs) := by
  refine (betrays_octets (fun n b _ => Text.length_quotedBuffer_replicate n b) h).between Value.buffer
    (.ok ("bytearray(", ")")) ?_ ?_
  · intro other hother
    rw [blank, blank, hother]
  · intro other s
    simp [Value.inspect, eq_comm]

/-- What is stored under the name of a sensitive field shows where it is not masked. -/
theorem betrays_hidden {k : Value} (hk : hides k = true) (v : Value) : Betrays blankEntry inspectEntry (k, v) := by
  intro t ht
  obtain ⟨key, hkey, -⟩ := bind_eq_ok_iff.mp ht
  have hother : ∀ w s, w.inspect = .ok s → inspectEntry (k, w) = .ok (key ++ ": " ++ s) := by
    intro w s hs
    rw [inspectEntry, hkey, hs]
    rfl
  have hblank : ∀ w, blankEntry (k, w) = blankEntry (k, v) := by
    intro w
    rw [blankEntry, blankEntry, if_pos hk, if_pos hk]
  -- two values that are both replaced, and whose texts have different lengths
  by_cases hlength : (key ++ ": " ++ "None").length = t.length
  · refine ⟨(k, .bool false), _, hblank _, hother _ _ rfl, ?_⟩
    rw [← hlength, String.length_append, String.length_append _ "None"]
    exact fun h => absurd (Nat.add_left_cancel h) (by decide)
  · exact ⟨(k, .null), _, hblank _, hother _ _ rfl, hlength⟩

/-- An entry betrays what its value betrays. -/
theorem betrays_inspectEntry (k : Value) {v : Value} (h : Betrays blank Value.inspect v) :
    Betrays blankEntry inspectEntry (k, v) := by
  -- the key and the colon stand in front of every value of the entry
  refine h.between (fun w => (k, w)) (k.inspect.map fun key => (key ++ ": ", "")) ?_ ?_
  · intro w hw
    simp only [blankEntry, hw]
  · intro w s
    simp only [inspectEntry, bind_eq_ok_iff, pure_eq_ok_iff, map_eq_ok_iff]
    constructor
    · rintro ⟨key, hkey, t, ht, hs⟩
      exact ⟨_, t, ⟨key, hkey, rfl⟩, ht, by rw [← hs, String.append_empty]⟩
    · rintro ⟨_, t, ⟨key, hkey, rfl⟩, ht, rfl⟩
      exact ⟨key, hkey, t, ht, by rw [String.append_empty]⟩

/-- An entry under a harmless key betrays what its masked value does. -/
theorem betrays_maskedEntry {k v : Value} (hk : hides k = false)
    (h : Betrays blank (fun v => value v >>= Value.inspect) v) : Betrays blankEntry maskedEntry (k, v) := by
  -- the key must have a name for the entry to be masked at all
  refine h.between (fun w => (k, w)) ((keyName k >>= fun _ => k.inspect).map fun key => (key ++ ": ", "")) ?_ ?_
  · intro w hw
    simp only [blankEntry, hw]
  · intro w s
    simp only [maskedEntry, shownUnder_of_not_hides hk, inspectEntry, bind_eq_ok_iff, pure_eq_ok_iff, map_eq_ok_iff]
    constructor
    · rintro ⟨shown, ⟨name, hname, hshown⟩, key, hkey, t, ht, hs⟩
      exact ⟨_, t, ⟨key, ⟨name, hname, hkey⟩, rfl⟩, ⟨shown, hshown, ht⟩, by rw [← hs, String.append_empty]⟩
    · rintro ⟨_, t, ⟨key, ⟨name, hname, hkey⟩, rfl⟩, ⟨shown, hshown, ht⟩, rfl⟩
      exact ⟨shown, ⟨name, hname, hshown⟩, key, hkey, t, ht, by rw [String.append_empty]⟩

/-- A field under a harmless name betrays what its masked value does. -/
theorem betrays_maskedField {name : String} {v : Value} (hname : isSensitive name = false)
    (h : Betrays blank (fun v => value v >>= Value.display) v) : Betrays blankField maskedField (name, v) := by
  -- the name is written without quotes and cannot fail
  refine h.between (fun w => (name, w)) (.ok (name ++ "=", "")) ?_ ?_
  · intro w hw
    simp only [blankField, hw]
  · intro w s
    simp only [maskedField, shown, hname, Bool.false_eq_true, if_false, bind_eq_ok_iff, pure_eq_ok_iff]
    constructor
    · rintro ⟨shown, hshown, t, ht, hs⟩
      exact ⟨_, t, rfl, ⟨shown, hshown, ht⟩, by rw [← hs, String.append_empty]⟩
    · rintro ⟨_, t, hends, ⟨shown, hshown, ht⟩, rfl⟩
      obtain rfl := Except.ok.inj hends
      exact ⟨shown, hshown, t, ht, by rw [String.append_empty]⟩

/-- A sequence is masked to itself, so that it betrays the same whether it is masked or not. -/
theorem betrays_list {vs : List Value} (h : BetrayAmong blankAll Value.inspectAll vs)
    {text : Value → Except RenderFault String} (htext : ∀ ws, text (.list ws) = Value.inspect (.list ws)) :
    Betrays blank text (.list vs) := by
  refine h.framed Value.list (.enclosed "[" "]") (fun _ hws => congrArg Value.list hws) fun ws t => ?_
  rw [htext]
  exact map_eq_ok_iff

/-- A tuple betrays its values. -/
theorem betrays_tuple {vs : List Value} (h : BetrayAmong blankAll Value.inspectAll vs)
    {text : Value → Except RenderFault String} (htext : ∀ ws, text (.tuple ws) = Value.inspect (.tuple ws)) :
    Betrays blank text (.tuple vs) := by
  refine h.framed Value.tuple .parenthesized (fun _ hws => congrArg Value.tuple hws) fun ws t => ?_
  rw [htext]
  exact map_eq_ok_iff

mutual

/-- The text of a value betrays what no line may tell in it. -/
theorem betrays_of_not_isPublic : ∀ v, isPublic v = false → Betrays blank Value.inspect v
  | .bytes _, h => betrays_bytes fun hempty => by simp [isPublic, hempty] at h
  | .buffer _, h => betrays_buffer fun hempty => by simp [isPublic, hempty] at h
  | .list vs, h => betrays_list (betrayAmong_of_not_arePublic vs h) fun _ => rfl
  | .tuple vs, h => betrays_tuple (betrayAmong_of_not_arePublic vs h) fun _ => rfl
  | .dict es, h =>
    (betrayAmong_of_not_arePublicEntries es h).framed Value.dict (.enclosed "\x7b" "\x7d")
      (fun _ hes => congrArg Value.dict hes) fun _ _ => map_eq_ok_iff
  | .null, h | .bool _, h | .int _, h | .float _, h | .text _, h | .scheme _, h | .purpose _, h | .fault .., h =>
    Bool.noConfusion h

theorem betrayAmong_of_not_arePublic : ∀ vs, arePublic vs = false → BetrayAmong blankAll Value.inspectAll vs
  | [], h => Bool.noConfusion h
  | v :: vs, h => by
    apply itemwise_inspectAll.betrayAmong_cons
    obtain hv | hvs := Bool.and_eq_false_iff.mp h
    · exact .inl (betrays_of_not_isPublic v hv)
    · exact .inr (betrayAmong_of_not_arePublic vs hvs)

theorem betrayAmong_of_not_arePublicEntries :
    ∀ es, arePublicEntries es = false → BetrayAmong blankEntries Value.inspectEntries es
  | [], h => Bool.noConfusion h
  | (k, v) :: rest, h => by
    apply itemwise_inspectEntries.betrayAmong_cons
    obtain hentry | hrest := Bool.and_eq_false_iff.mp h
    · obtain hk | hv := Bool.and_eq_false_iff.mp hentry
      · exact .inl (betrays_hidden (by simpa using hk) v)
      · exact .inl (betrays_inspectEntry k (betrays_of_not_isPublic v hv))
    · exact .inr (betrayAmong_of_not_arePublicEntries rest hrest)

end

/-- A masked dictionary is the row of its masked entries. -/
theorem maskedDict_eq_ok_iff (es : List (Value × Value)) (t : String) :
    (value (.dict es) >>= Value.inspect) = .ok t
      ↔ ∃ ts, (entries es >>= Value.inspectEntries) = .ok ts ∧ Value.enclosed "\x7b" "\x7d" ts = t := by
  rw [value]
  cases entries es with
  | error fault => exact ⟨nofun, nofun⟩
  | ok masked => exact map_eq_ok_iff

mutual

/-- What stands for a value betrays what masking does not reach. -/
theorem betrays_of_not_isReached : ∀ v, isReached v = false → Betrays blank (fun v => value v >>= Value.inspect) v
  | .list vs, h => betrays_list (betrayAmong_of_not_arePublic vs h) fun _ => rfl
  | .tuple vs, h => betrays_tuple (betrayAmong_of_not_arePublic vs h) fun _ => rfl
  | .dict es, h =>
    (betrayAmong_of_not_areReached es h).framed Value.dict (.enclosed "\x7b" "\x7d")
      (fun _ hes => congrArg Value.dict hes) maskedDict_eq_ok_iff
  | .null, h | .bool _, h | .int _, h | .float _, h | .text _, h | .bytes _, h | .buffer _, h | .scheme _, h
  | .purpose _, h | .fault .., h => Bool.noConfusion h

/-- Entries that the masking does not reach betray something. -/
theorem betrayAmong_of_not_areReached :
    ∀ es, areReached es = false → BetrayAmong blankEntries (fun es => entries es >>= Value.inspectEntries) es
  | [], h => Bool.noConfusion h
  | (k, v) :: rest, h => by
    apply itemwise_maskedEntries.betrayAmong_cons
    obtain hentry | hrest := Bool.and_eq_false_iff.mp h
    · obtain ⟨hk, hv⟩ := Bool.or_eq_false_iff.mp hentry
      exact .inl (betrays_maskedEntry hk (betrays_of_not_isReached v hv))
    · exact .inr (betrayAmong_of_not_areReached rest hrest)

end

/-- What is not reached is inside a sequence or a dictionary, and these are written for people as they are inspected. -/
theorem display_of_not_isReached {v : Value} (h : isReached v = false) :
    (value v >>= Value.display) = (value v >>= Value.inspect) := by
  cases v with
  | list vs => rfl
  | tuple vs => rfl
  | dict es =>
    rw [value]
    cases entries es <;> rfl
  | _ => exact Bool.noConfusion h

/-- Fields that the masking does not reach betray something. -/
theorem betrayAmong_of_not_reachesAll {fs : Fields} (h : reachesAll fs = false) :
    BetrayAmong blankFields (fun fs => fields fs >>= LogFormat.assignments) fs := by
  induction fs with
  | nil => exact Bool.noConfusion h
  | cons field rest ih =>
    obtain ⟨name, v⟩ := field
    apply itemwise_maskedFields.betrayAmong_cons
    obtain hfield | hrest := Bool.and_eq_false_iff.mp h
    · obtain ⟨hname, hv⟩ := Bool.or_eq_false_iff.mp hfield
      refine .inl (betrays_maskedField hname ((betrays_of_not_isReached v hv).congr fun w hw => ?_))
      -- a value that is not reached is no text, so it is displayed as it is inspected
      apply display_of_not_isReached
      rw [← isReached_blank, hw, isReached_blank, hv]
    · exact .inr (ih hrest)

end Mask

namespace LogFormat

/-- Fields behind a bar. -/
def afterBar (texts : List String) : String :=
  " | " ++ " ".intercalate texts

/-- The bar in front of the fields leaves room for their text. -/
theorem isFrame_afterBar : Text.IsFrame afterBar := by
  refine ⟨fun n => " | ".length + " ".length * (n - 1), fun texts => ?_⟩
  rw [afterBar, String.length_append, Text.length_intercalate]
  ac_rfl

/-- The text of the fields betrays what one of them does. -/
theorem betrays_fieldText {fs : Fields} (h : Mask.reachesAll fs = false) :
    Mask.Betrays Mask.blankFields fieldText fs := by
  have hnonempty : fs.isEmpty = false := by
    cases fs with
    | nil => exact Bool.noConfusion h
    | cons field rest => rfl
  have hframed : Mask.Betrays Mask.blankFields (fun fs => (Mask.fields fs >>= assignments).map afterBar) fs :=
    (Mask.betrayAmong_of_not_reachesAll h).framed id isFrame_afterBar (fun _ hgs => hgs) fun _ _ => map_eq_ok_iff
  -- there is a bar only where there are fields, and there are as many as before
  refine hframed.congr fun gs hgs => ?_
  have hgs : gs.isEmpty = false := (Mask.isEmpty_eq_of_blankFields_eq hgs).trans hnonempty
  rw [fieldText, hgs, if_neg Bool.false_ne_true]
  cases Mask.fields gs with
  | error fault => rfl
  | ok masked =>
    change (assignments masked >>= _) = (assignments masked).map afterBar
    cases assignments masked <;> rfl

/-- **The human line betrays what the text of its fields does**, since all else in it stays as it is. -/
theorem betrays_asHuman {r : Record} (h : Mask.reachesAll r.fields = false) (now : Moment)
    (operation : Option Operation) :
    Mask.Betrays Mask.blankFields (fun fs => asHuman now operation { r with fields := fs }) r.fields := by
  -- the head of the line, the message and the incident frame the text of the fields
  refine (betrays_fieldText h).between id
    ((Template.render r.template r.arguments).map fun message =>
      (beforeMessage now operation r ++ message, incidentText r))
    (fun _ hgs => hgs) fun gs line => ?_
  simp only [asHuman_eq_ok_iff, map_eq_ok_iff]
  constructor
  · rintro ⟨text, message, htext, hmessage, rfl⟩
    exact ⟨_, text, ⟨message, hmessage, rfl⟩, htext, rfl⟩
  · rintro ⟨_, text, ⟨message, hmessage, rfl⟩, htext, rfl⟩
    exact ⟨text, message, htext, hmessage, rfl⟩

/-- No line in this format tells what is to be masked in the fields of a record: other fields that differ in nothing
else give the same line. -/
def Conceals (format : LogFormat) (r : Record) : Prop :=
  ∀ gs, Mask.blankFields gs = Mask.blankFields r.fields → ∀ now operation,
    format.render now operation { r with fields := gs } = format.render now operation r

/-- **Lines conceal what is to be masked exactly if masking reaches it.** Where it does, lines in all formats do. Where
it does not, the line for people tells, if there is one. -/
theorem conceals_exactly (r : Record) :
    (Mask.reachesAll r.fields = true → ∀ format : LogFormat, format.Conceals r)
      ∧ (Mask.reachesAll r.fields = false → (∃ now operation line, human.render now operation r = .ok line) →
        ¬ human.Conceals r) := by
  constructor
  · intro hreached format gs hgs now operation
    exact render_eq_of_fields_eq (Mask.isEmpty_eq_of_blankFields_eq hgs)
      (Mask.fields_eq_of_blankFields_eq hreached hgs) format now operation
  -- other fields with the same blanks have another human line
  · rintro hreached ⟨now, operation, line, hline⟩ hconceals
    obtain ⟨gs, other, hgs, hother, hne⟩ := betrays_asHuman hreached now operation line hline
    have hsame : human.render now operation { r with fields := gs } = .ok line := by
      rw [hconceals gs hgs now operation, hline]
    have hother : human.render now operation { r with fields := gs } = .ok other := hother
    obtain rfl := Except.ok.inj (hother.symm.trans hsame)
    exact hne rfl

/-- A line with one field. -/
def lineWith (name : String) (v : Value) : Record where
  logger := "pkcs12_pbe.test"
  level := 20
  template := "hello"
  fields := [(name, v)]
  source := .null

/-- A moment of an early morning. -/
def morning : Moment where
  year := 2024
  month := 1
  day := 2
  hour := 3
  minute := 4
  second := 5
  microsecond := 678900

/-- A dictionary that holds a password. -/
def account (password : String) : Value :=
  .dict [(.text "password", .text password)]

theorem conceals_exactly_nested_dictionaries :
    json.Conceals (lineWith "item" (.dict [(.text "inner", account "hunter2")]))
      ∧ ¬ human.Conceals (lineWith "item" (.tuple [.bytes [1, 2, 3]])) := by
  constructor
  · exact (conceals_exactly _).1 (by decide +kernel) json
  · exact (conceals_exactly _).2 (by decide +kernel) ⟨morning, none, _, rfl⟩

/-- A password in an item of a list shows in JSON, and octets in a list show in a line for people. -/
theorem shown_inside_list :
    (Mask.blankFields (lineWith "items" (.list [account "hunter2"])).fields
        = Mask.blankFields (lineWith "items" (.list [account "sesame"])).fields
      ∧ json.render morning none (lineWith "items" (.list [account "hunter2"]))
        ≠ json.render morning none (lineWith "items" (.list [account "sesame"])))
      ∧ Mask.blankFields (lineWith "items" (.list [.bytes [1]])).fields
        = Mask.blankFields (lineWith "items" (.list [.bytes [10]])).fields
      ∧ human.render morning none (lineWith "items" (.list [.bytes [1]]))
        ≠ human.render morning none (lineWith "items" (.list [.bytes [10]])) := by
  -- in both pairs one line takes more room than the other
  have hsize : ∀ {x y : Except RenderFault String},
      x.toOption.map String.utf8ByteSize ≠ y.toOption.map String.utf8ByteSize → x ≠ y :=
    fun hne hsame => hne (congrArg (fun line => line.toOption.map String.utf8ByteSize) hsame)
  refine ⟨⟨rfl, hsize ?_⟩, rfl, hsize ?_⟩
  · decide +kernel
  · decide +kernel

end LogFormat

end Shroud
