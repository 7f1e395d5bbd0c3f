import Mathlib.Data.List.Forall2
import Shroud.Proofs.Decimal.Integer
import Shroud.Proofs.Json.Unambiguity
import Shroud.Proofs.Value.Fits

/-!
# What is written in JSON

Values are written in texts of the grammar. Of the forms that it leaves open, one is used: characters outside of the
printable ones of ASCII are escaped, integers have no fraction and no power of ten, and there is one space behind commas
and colons. So a text consists of printable characters of ASCII alone (`Json.Written`).

`Value.Tells` says which value of JSON a value is written as. Octets are written as a text, and keys that are no texts
by their names. Ordinary values tell one (`Value.exists_tells`), and what a value tells is what is written of it
(`Value.Tells.exists_json`).
-/

namespace Shroud

/-- A printable character of ASCII. -/
def Text.IsPlain (c : Char) : Prop :=
  ' '.toNat ≤ c.toNat ∧ c.toNat ≤ '~'.toNat

instance (c : Char) : Decidable (Text.IsPlain c) :=
  inferInstanceAs (Decidable (_ ∧ _))

/-- Whether characters are plain can be computed. -/
theorem Text.isPlain_of_all {cs : List Char} (h : cs.all (fun c => decide (IsPlain c)) = true) : ∀ c ∈ cs, IsPlain c :=
  fun c hc => of_decide_eq_true (List.all_eq_true.mp h c hc)

namespace Json

/-- **What is written for something**: a text that reads as it, in printable characters of ASCII. -/
structure Written {α : Type} (Reads : α → List Char → Prop) (a : α) (text : String) : Prop where
  reads : Reads a text.toList
  plain : ∀ c ∈ text.toList, Text.IsPlain c

/-! ### Texts -/

/-- A hexadecimal digit is read as the number that it was written for. -/
theorem hexDigit?_digitChar : ∀ d < 16, hexDigit? (Nat.digitChar d) = some d := by
  decide

/-- Hexadecimal digits are plain. -/
theorem isPlain_digitChar : ∀ d < 16, Text.IsPlain (Nat.digitChar d) := by
  decide

theorem hex_four (n : Nat) : Text.hex 4 n
    = [Nat.digitChar (n / 16 / 16 / 16 % 16), Nat.digitChar (n / 16 / 16 % 16), Nat.digitChar (n / 16 % 16),
      Nat.digitChar (n % 16)] := rfl

/-- **A number of two octets is escaped as a unit** that stands for it. -/
theorem isUnit_escapedUnit {n : Nat} (h : n < 0x10000) : IsUnit n (Text.escapedUnit n) := by
  have hdigit : ∀ m, hexDigit? (Nat.digitChar (m % 16)) = some (m % 16) := fun m =>
    hexDigit?_digitChar _ (Nat.mod_lt m (by decide))
  have hunit := IsUnit.mk (hdigit (n / 16 / 16 / 16)) (hdigit (n / 16 / 16)) (hdigit (n / 16)) (hdigit n)
  have hnumber : ((n / 16 / 16 / 16 % 16 * 16 + n / 16 / 16 % 16) * 16 + n / 16 % 16) * 16 + n % 16 = n := by omega
  rw [hnumber] at hunit
  exact hunit

/-- Escaped units are plain. -/
theorem isPlain_of_mem_escapedUnit {n : Nat} {c : Char} (h : c ∈ Text.escapedUnit n) : Text.IsPlain c := by
  have hdigit : ∀ m, Text.IsPlain (Nat.digitChar (m % 16)) := fun m => isPlain_digitChar _ (Nat.mod_lt m (by decide))
  rw [Text.escapedUnit, hex_four] at h
  simp only [List.mem_cons, List.not_mem_nil, or_false] at h
  obtain rfl | rfl | rfl | rfl | rfl | rfl := h
  · decide
  · decide
  all_goals exact hdigit _

/-- **An escaped character reads as the character.** -/
theorem isCharacter_escapedChar (c : Char) : IsCharacter c (Text.escapedChar c) := by
  have hbelow := toNat_ne_surrogate c
  unfold Text.escapedChar
  split_ifs with hquote hbackslash h h h h h hplain hunit
  · subst hquote
    exact .escaped (.short rfl)
  · subst hbackslash
    exact .escaped (.short rfl)
  -- the five control characters that have a letter
  iterate 5
    · subst h
      exact .escaped (.short rfl)
  · rw [Bool.and_eq_true, decide_eq_true_eq] at hplain
    exact .itself hplain.1 hquote hbackslash
  · exact .escaped (.unit (isUnit_escapedUnit (by omega)))
  · refine .escaped (.surrogates (Nat.lt_of_not_le hunit) (isUnit_escapedUnit ?_) (isUnit_escapedUnit ?_)) <;> omega

/-- A character is escaped in plain characters, whatever it is. -/
theorem isPlain_of_mem_escapedChar {c d : Char} (h : d ∈ Text.escapedChar c) : Text.IsPlain d := by
  unfold Text.escapedChar at h
  split_ifs at h with _ _ _ _ _ _ _ hplain
  -- a backslash and one more character
  iterate 7
    · simp only [List.mem_cons, List.not_mem_nil, or_false] at h
      obtain rfl | rfl := h <;> decide
  · rw [Bool.and_eq_true, decide_eq_true_eq, decide_eq_true_eq] at hplain
    rw [List.mem_singleton.mp h]
    exact ⟨hplain.1, Nat.le_of_lt_succ hplain.2⟩
  · exact isPlain_of_mem_escapedUnit h
  · obtain hhigh | hlow := List.mem_append.mp h
    · exact isPlain_of_mem_escapedUnit hhigh
    · exact isPlain_of_mem_escapedUnit hlow

/-- Escaped characters in front of a quote are a quoted text. -/
theorem isQuoted_flatMap (s : List Char) : IsQuoted s (s.flatMap Text.escapedChar ++ ['"']) := by
  induction s with
  | nil => exact .close
  | cons c s ih =>
    rw [List.flatMap_cons, List.append_assoc]
    exact .cons (isCharacter_escapedChar c) ih

/-- A text is written as a quote and a quoted text. -/
theorem toList_escaped (s : String) :
    (Text.escaped s).toList = '"' :: (s.toList.flatMap Text.escapedChar ++ ['"']) := by
  rw [Text.escaped, String.toList_ofList, List.cons_append]

/-- Texts are written in plain characters. -/
theorem isPlain_of_mem_escaped {s : String} {c : Char} (h : c ∈ (Text.escaped s).toList) : Text.IsPlain c := by
  rw [toList_escaped, List.mem_cons, List.mem_append, List.mem_singleton] at h
  obtain rfl | h | rfl := h
  · decide
  · obtain ⟨d, -, hd⟩ := List.mem_flatMap.mp h
    exact isPlain_of_mem_escapedChar hd
  · decide

/-- **An escaped text reads as the text.** -/
theorem written_escaped (s : String) : Written IsValue (.string s) (Text.escaped s) where
  reads := toList_escaped s ▸ .string (isQuoted_flatMap s.toList)
  plain _ := isPlain_of_mem_escaped

/-! ### Integers -/

theorem isDigits_toDigits (n : Nat) : IsDigits (Nat.toDigits 10 n) :=
  ⟨Nat.toDigits_ne_nil, fun _ => Decimal.isDigit_of_mem_digits⟩

/-- Only zero begins with a zero. -/
theorem head?_toDigits_ne {n : Nat} (h : n ≠ 0) : (Nat.toDigits 10 n).head? ≠ some '0' := by
  induction n using Nat.strongRecOn with
  | ind n ih =>
    by_cases hn : n < 10
    · rw [Nat.toDigits_of_lt_base hn]
      have hdigit : ∀ d < 10, d ≠ 0 → Nat.digitChar d ≠ '0' := by decide
      exact fun hhead => hdigit n hn h (Option.some.inj hhead)
    · rw [Nat.toDigits_of_base_le (by decide) (Nat.le_of_not_lt hn), List.head?_append_of_ne_nil _ Nat.toDigits_ne_nil]
      exact ih (n / 10) (by omega) (by omega)

/-- A number is written with no zero in front of other digits. -/
theorem isWhole_toDigits (n : Nat) : IsWhole (Nat.toDigits 10 n) := by
  by_cases h : n = 0
  · subst h
    exact .zero
  · exact .digits (isDigits_toDigits n) (head?_toDigits_ne h)

/-- Behind a sign it is a number in JSON. -/
theorem isNumber_signed {sign : Int} {signText : List Char} (hsign : IsSign sign signText) (n : Nat) :
    IsNumber (sign * n : Int) (signText ++ Nat.toDigits 10 n) := by
  have hnumber := IsNumber.mk hsign (isWhole_toDigits n) .none .none
  rw [List.append_nil, List.append_nil, List.append_nil] at hnumber
  have hvalue : numeral (Nat.toDigits 10 n) = n := Nat.ofDigitChars_ten_toDigits
  rw [hvalue] at hnumber
  simpa using hnumber

/-- **An integer is written as the number that it is.** -/
theorem written_ofInt (n : Int) : Written IsValue (.number n) (Decimal.ofInt n) := by
  refine ⟨.number ?_, fun c hc => ?_⟩
  · rw [Decimal.toList_ofInt]
    split
    -- the digits are those of the absolute value
    · next hneg =>
      have hnumber := isNumber_signed .minus n.natAbs
      rwa [show -1 * (n.natAbs : Int) = n by omega] at hnumber
    · next hnonneg =>
      have hnumber := isNumber_signed .none n.natAbs
      rwa [show 1 * (n.natAbs : Int) = n by omega] at hnumber
  · -- both the sign and the digits are plain
    obtain rfl | hdigit := Decimal.isSymbol_of_mem_ofInt hc
    · decide
    · obtain ⟨hlow, hhigh⟩ := Text.toNat_of_isDigit hdigit
      exact ⟨Nat.le_trans (by decide) hlow, Nat.le_trans hhigh (by decide)⟩

/-! ### Rows -/

/-- No characters are space as well. -/
theorem isSpace_nil : IsSpace [] :=
  fun _ hc => absurd hc List.not_mem_nil

variable {α : Type} {Reads : α → List Char → Prop}

/-- Plain items in plain brackets are plain. -/
theorem isPlain_enclosed {opening closing : String} (hopening : ∀ c ∈ opening.toList, Text.IsPlain c)
    (hclosing : ∀ c ∈ closing.toList, Text.IsPlain c) {texts : List String}
    (h : ∀ text ∈ texts, ∀ c ∈ text.toList, Text.IsPlain c) :
    ∀ c ∈ (Value.enclosed opening closing texts).toList, Text.IsPlain c := by
  -- the row has a separator between each two items
  have hrow : ∀ c ∈ (", ".intercalate texts).toList, Text.IsPlain c := by
    induction texts with
    | nil => exact fun _ hc => absurd hc List.not_mem_nil
    | cons text rest ih =>
      obtain ⟨htext, hrest⟩ := List.forall_mem_cons.mp h
      cases rest with
      | nil => rwa [String.intercalate_singleton]
      | cons next rest =>
        rw [String.intercalate_cons_cons, String.toList_append, String.toList_append]
        exact List.forall_mem_append.mpr ⟨List.forall_mem_append.mpr ⟨htext, Text.isPlain_of_all rfl⟩, ih hrest⟩
  rw [Value.enclosed, String.toList_append, String.toList_append]
  exact List.forall_mem_append.mpr ⟨List.forall_mem_append.mpr ⟨hopening, hrow⟩, hclosing⟩

/-- Texts with commas and spaces between them read as a row, of items as well as of members. -/
theorem row_joined {Row : List α → List Char → Prop} {closing : Char}
    (hrow : ∀ {as cs}, IsRow Reads Row closing as cs → Row as cs) {a : α} {as : List α} {text : String}
    {texts : List String} (h : List.Forall₂ (Written Reads) (a :: as) (text :: texts)) {space : List Char}
    (hspace : IsSpace space) : Row (a :: as) (space ++ ((", ".intercalate (text :: texts)).toList ++ [closing])) := by
  induction texts generalizing a as text space with
  | nil =>
    obtain ⟨ha, has⟩ := List.forall₂_cons.mp h
    obtain rfl := List.forall₂_nil_right_iff.mp has
    rw [String.intercalate_singleton]
    exact hrow (.last hspace ha.reads isSpace_nil)
  | cons next rest ih =>
    obtain ⟨ha, has⟩ := List.forall₂_cons.mp h
    obtain ⟨b, bs, hb, hbs, rfl⟩ := List.forall₂_cons_right_iff.mp has
    have hone : IsSpace [' '] := List.forall_mem_singleton.mpr rfl
    have hcons := hrow (.cons hspace ha.reads isSpace_nil (ih (.cons hb hbs) hone))
    -- the space behind a comma stands before the next part
    have hseparator : ", ".toList = [',', ' '] := rfl
    rw [String.intercalate_cons_cons, String.toList_append, String.toList_append, hseparator]
    simpa only [List.append_assoc, List.nil_append, List.cons_append] using hcons

/-- Items in brackets are the brackets around the row of items. -/
theorem toList_enclosed (opening closing : String) (texts : List String) :
    (Value.enclosed opening closing texts).toList
      = opening.toList ++ ((", ".intercalate texts).toList ++ closing.toList) := by
  rw [Value.enclosed, String.toList_append, String.toList_append, List.append_assoc]

/-- What is written item by item is plain. -/
theorem forall_isPlain {as : List α} {texts : List String} (h : List.Forall₂ (Written Reads) as texts) :
    ∀ text ∈ texts, ∀ c ∈ text.toList, Text.IsPlain c := by
  induction h with
  | nil => exact fun _ htext => absurd htext List.not_mem_nil
  | cons ha _ ih => exact List.forall_mem_cons.mpr ⟨ha.plain, ih⟩

/-- **Items in brackets read as an array.** -/
theorem written_array {items : List Json} {texts : List String} (h : List.Forall₂ (Written IsValue) items texts) :
    Written IsValue (.array items) (Value.enclosed "[" "]" texts) := by
  refine ⟨?_, isPlain_enclosed (Text.isPlain_of_all rfl) (Text.isPlain_of_all rfl) (forall_isPlain h)⟩
  rw [toList_enclosed]
  cases h with
  | nil => exact .emptyArray isSpace_nil
  | cons hj hrest =>
    exact .array (row_joined isItems_iff.mpr (.cons hj hrest) isSpace_nil)

/-- **Members in braces read as an object.** -/
theorem written_object {members : List (String × Json)} {texts : List String}
    (h : List.Forall₂ (Written IsMember) members texts) :
    Written IsValue (.object members) (Value.jsonObject texts) := by
  refine ⟨?_, isPlain_enclosed (Text.isPlain_of_all rfl) (Text.isPlain_of_all rfl) (forall_isPlain h)⟩
  rw [Value.jsonObject, toList_enclosed]
  cases h with
  | nil => exact .emptyObject isSpace_nil
  | cons hm hrest =>
    exact .object (row_joined isMembers_iff.mpr (.cons hm hrest) isSpace_nil)

/-- A name and a text read as a member. -/
theorem written_member {name : String} {j : Json} {text : String} (h : Written IsValue j text) :
    Written IsMember (name, j) (Value.jsonEntry name text) := by
  -- there is no space in front of the colon, and one behind it
  have htext : (Value.jsonEntry name text).toList
      = '"' :: (name.toList.flatMap Text.escapedChar ++ ['"'] ++ ([] ++ ':' :: ([' '] ++ text.toList))) := by
    rw [Value.jsonEntry, String.toList_append, String.toList_append, toList_escaped]
    simp
  refine ⟨?_, ?_⟩
  · rw [htext]
    exact .mk (isQuoted_flatMap name.toList) isSpace_nil (List.forall_mem_singleton.mpr rfl) h.reads
  · rw [Value.jsonEntry, String.toList_append, String.toList_append]
    have hname : ∀ c ∈ (Text.escaped name).toList, Text.IsPlain c := fun _ => isPlain_of_mem_escaped
    have hcolon : ∀ c ∈ ": ".toList, Text.IsPlain c := Text.isPlain_of_all rfl
    exact List.forall_mem_append.mpr ⟨List.forall_mem_append.mpr ⟨hname, hcolon⟩, h.plain⟩

end Json

/-! ### Values -/

namespace Value

mutual

/-- **What a value tells in JSON.** Sequences are arrays, and octets are the text that shows them. -/
inductive Tells : Value → Json → Prop where
  | null : Tells .null .null
  | bool (b : Bool) : Tells (.bool b) (.bool b)
  | int {n : Int} (h : Decimal.inBounds n = true) : Tells (.int n) (.number n)
  | text (s : String) : Tells (.text s) (.string s)
  | bytes (bs : Bytes) : Tells (.bytes bs) (.string (Text.quotedBytes bs))
  | list {vs : List Value} {items : List Json} (h : AllTell vs items) : Tells (.list vs) (.array items)
  | tuple {vs : List Value} {items : List Json} (h : AllTell vs items) : Tells (.tuple vs) (.array items)
  | dict {es : List (Value × Value)} {members : List (String × Json)} (h : EntriesTell es members) :
      Tells (.dict es) (.object members)

/-- What values tell, one by one. -/
inductive AllTell : List Value → List Json → Prop where
  | nil : AllTell [] []
  | cons {v : Value} {vs : List Value} {j : Json} {items : List Json} (hv : Tells v j) (hrest : AllTell vs items) :
      AllTell (v :: vs) (j :: items)

/-- What entries tell, one by one, each under the name of its key. -/
inductive EntriesTell : List (Value × Value) → List (String × Json) → Prop where
  | nil : EntriesTell [] []
  | cons {k v : Value} {rest : List (Value × Value)} {name : String} {j : Json} {members : List (String × Json)}
      (hkey : jsonKey k = .ok name) (hv : Tells v j) (hrest : EntriesTell rest members) :
      EntriesTell ((k, v) :: rest) ((name, j) :: members)

end

/-- A truth value is written as the word for it. -/
theorem written_jsonBool (b : Bool) : Json.Written Json.IsValue (.bool b) (jsonBool b) := by
  cases b with
  | true => exact ⟨.true, Text.isPlain_of_all rfl⟩
  | false => exact ⟨.false, Text.isPlain_of_all rfl⟩

/-- An integer with few enough digits is written as it is. -/
theorem json_int {n : Int} (h : Decimal.inBounds n = true) : json (.int n) = .ok (Decimal.ofInt n) := by
  unfold json ofInteger
  rw [Decimal.text?_of_inBounds h]

open Json (Written IsValue IsMember)

mutual

/-- **What a value tells is written of it.** -/
theorem Tells.exists_json : ∀ {v j}, Tells v j → ∃ text, json v = .ok text ∧ Written IsValue j text
  | _, _, .null => ⟨"null", rfl, .null, Text.isPlain_of_all rfl⟩
  | _, _, .bool b => ⟨_, rfl, written_jsonBool b⟩
  | _, _, @Tells.int n h => ⟨Decimal.ofInt n, json_int h, Json.written_ofInt n⟩
  | _, _, .text s => ⟨_, rfl, Json.written_escaped s⟩
  | _, _, .bytes bs => ⟨_, rfl, Json.written_escaped (Text.quotedBytes bs)⟩
  | _, _, .list h => by
    obtain ⟨texts, htexts, hwritten⟩ := h.exists_jsonAll
    exact ⟨_, by rw [json, htexts]; rfl, Json.written_array hwritten⟩
  | _, _, .tuple h => by
    obtain ⟨texts, htexts, hwritten⟩ := h.exists_jsonAll
    exact ⟨_, by rw [json, htexts]; rfl, Json.written_array hwritten⟩
  | _, _, .dict h => by
    obtain ⟨texts, htexts, hwritten⟩ := h.exists_jsonEntries
    exact ⟨_, by rw [json, htexts]; rfl, Json.written_object hwritten⟩

/-- Values of a sequence that tell something are written one by one. -/
theorem AllTell.exists_jsonAll : ∀ {vs items}, AllTell vs items →
    ∃ texts, jsonAll vs = .ok texts ∧ List.Forall₂ (Written IsValue) items texts
  | _, _, .nil => ⟨[], rfl, .nil⟩
  | _, _, .cons hv hrest => by
    obtain ⟨text, htext, hwritten⟩ := hv.exists_json
    obtain ⟨texts, htexts, hall⟩ := hrest.exists_jsonAll
    refine ⟨text :: texts, ?_, .cons hwritten hall⟩
    rw [jsonAll, htext, htexts]
    rfl

/-- Entries that tell something are written one by one, each behind its name. -/
theorem EntriesTell.exists_jsonEntries : ∀ {es members}, EntriesTell es members →
    ∃ texts, jsonEntries es = .ok texts ∧ List.Forall₂ (Written IsMember) members texts
  | _, _, .nil => ⟨[], rfl, .nil⟩
  | _, _, @EntriesTell.cons _ _ _ name _ _ hkey hv hrest => by
    obtain ⟨text, htext, hwritten⟩ := hv.exists_json
    obtain ⟨texts, htexts, hall⟩ := hrest.exists_jsonEntries
    refine ⟨jsonEntry name text :: texts, ?_, .cons (Json.written_member hwritten) hall⟩
    rw [jsonEntries, hkey, htext, htexts]
    rfl

end

mutual

/-- **Ordinary values tell something.** -/
theorem exists_tells : ∀ v, isOrdinary v = true → ∃ j, Tells v j
  | null => fun _ => ⟨_, .null⟩
  | bool b => fun _ => ⟨_, .bool b⟩
  | int _ => fun h => ⟨_, .int h⟩
  | text s => fun _ => ⟨_, .text s⟩
  | bytes bs => fun _ => ⟨_, .bytes bs⟩
  | list vs => fun h => by
    obtain ⟨items, hitems⟩ := exists_allTell vs h
    exact ⟨_, .list hitems⟩
  | tuple vs => fun h => by
    obtain ⟨items, hitems⟩ := exists_allTell vs h
    exact ⟨_, .tuple hitems⟩
  | dict es => fun h => by
    obtain ⟨members, hmembers⟩ := exists_entriesTell es h
    exact ⟨_, .dict hmembers⟩
  -- what is left is not ordinary
  | float _ | buffer _ | scheme _ | purpose _ | fault .. => nofun

/-- Ordinary values of a sequence tell something. -/
theorem exists_allTell : ∀ vs, areOrdinary vs = true → ∃ items, AllTell vs items
  | [] => fun _ => ⟨[], .nil⟩
  | v :: vs => fun h => by
    obtain ⟨hv, hvs⟩ := Bool.and_eq_true_iff.mp h
    obtain ⟨j, hj⟩ := exists_tells v hv
    obtain ⟨items, hitems⟩ := exists_allTell vs hvs
    exact ⟨j :: items, .cons hj hitems⟩

/-- Ordinary entries tell something, since their keys have names. -/
theorem exists_entriesTell : ∀ es, haveOrdinary es = true → ∃ members, EntriesTell es members
  | [] => fun _ => ⟨[], .nil⟩
  | (k, v) :: rest => fun h => by
    obtain ⟨hentry, hrest⟩ := Bool.and_eq_true_iff.mp h
    obtain ⟨hk, hv⟩ := Bool.and_eq_true_iff.mp hentry
    -- an ordinary key has a name in JSON
    have hname := (fits_of_isOrdinaryKey hk).2
    rw [← isOk_jsonKey] at hname
    obtain ⟨name, hname⟩ := isOk_iff.mp hname
    obtain ⟨j, hj⟩ := exists_tells v hv
    obtain ⟨members, hmembers⟩ := exists_entriesTell rest hrest
    exact ⟨(name, j) :: members, .cons hname hj hmembers⟩

end

end Value

end Shroud
