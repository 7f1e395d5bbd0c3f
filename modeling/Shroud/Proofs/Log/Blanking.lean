import Shroud.Proofs.Log.Fields

/-!
# What no line may tell

Fields hold what no line may tell: octets, and everything under the name of a sensitive field, at any depth.
`Mask.blank` takes it away, so two fields differ in nothing else exactly if they are blanked to the same.

Masking goes into dictionaries only. It reaches everything in a value (`Mask.isReached`) if the sequences on the way
are public (`Mask.isPublic`). Public values are those that are left alone by blanking. What is reached does not show
in what stands for the fields (`Mask.fields_eq_of_blankFields_eq`), and so not in a line
(`LogFormat.render_eq_of_fields_eq`).
-/

namespace Shroud

namespace Mask

/-- Whether the key of a dictionary is the name of a sensitive field. -/
def hides (k : Value) : Bool :=
  match keyName k with
  | .ok name => isSensitive name
  | .error _ => false

mutual

/-- A value without what no line may tell: octets are wiped, and what is stored under the name of a sensitive field
is taken away. The arguments of a fault are not stored under a name and stay. -/
def blank : Value → Value
  | .bytes bs => .bytes (Bytes.wiped bs)
  | .buffer bs => .buffer (Bytes.wiped bs)
  | .list vs => .list (blankAll vs)
  | .tuple vs => .tuple (blankAll vs)
  | .dict es => .dict (blankEntries es)
  | v => v

/-- Values without what no line may tell. -/
def blankAll : List Value → List Value
  | [] => []
  | v :: vs => blank v :: blankAll vs

/-- Entries without what no line may tell. -/
def blankEntries : List (Value × Value) → List (Value × Value)
  | [] => []
  | (k, v) :: rest => (k, if hides k then .null else blank v) :: blankEntries rest

end

/-- An entry without what no line may tell. -/
def blankEntry : Value × Value → Value × Value
  | (k, v) => (k, if hides k then .null else blank v)

/-- A field without what no line may tell. -/
def blankField : String × Value → String × Value
  | (name, v) => (name, if isSensitive name then .null else blank v)

/-- Fields without what no line may tell. -/
def blankFields (fs : Fields) : Fields :=
  fs.map blankField

mutual

/-- Whether there is nothing in a value that no line may tell. -/
def isPublic : Value → Bool
  | .bytes bs | .buffer bs => bs.isEmpty
  | .list vs | .tuple vs => arePublic vs
  | .dict es => arePublicEntries es
  | _ => true

/-- Whether there is nothing in values that no line may tell. -/
def arePublic : List Value → Bool
  | [] => true
  | v :: vs => isPublic v && arePublic vs

/-- Whether there is nothing in entries that no line may tell. -/
def arePublicEntries : List (Value × Value) → Bool
  | [] => true
  | (k, v) :: rest => (!hides k && isPublic v) && arePublicEntries rest

end

mutual

/-- Whether masking reaches all that no line may tell in a value: on the way there are dictionaries alone. -/
def isReached : Value → Bool
  | .list vs | .tuple vs => arePublic vs
  | .dict es => areReached es
  | _ => true

/-- Whether masking reaches all that no line may tell in entries. -/
def areReached : List (Value × Value) → Bool
  | [] => true
  | (k, v) :: rest => (hides k || isReached v) && areReached rest

end

/-- Whether masking reaches all that no line may tell in fields. -/
def reachesAll (fs : Fields) : Bool :=
  fs.all fun (name, v) => isSensitive name || isReached v

/-! ### Blanking once -/

/-- Wiping leaves no octets where there were none, and only there. -/
theorem isEmpty_wiped (bs : Bytes) : (Bytes.wiped bs).isEmpty = bs.isEmpty := by
  cases bs <;> rfl

mutual

/-- **Blanking leaves public what was public**, and nothing else becomes so: octets stay octets. -/
theorem isPublic_blank : ∀ v, isPublic (blank v) = isPublic v
  | .bytes bs | .buffer bs => isEmpty_wiped bs
  | .list vs | .tuple vs => arePublic_blankAll vs
  | .dict es => arePublicEntries_blankEntries es
  | .null | .bool _ | .int _ | .float _ | .text _ | .scheme _ | .purpose _ | .fault .. => rfl

theorem arePublic_blankAll : ∀ vs, arePublic (blankAll vs) = arePublic vs
  | [] => rfl
  | v :: vs => by
    rw [blankAll, arePublic, arePublic, isPublic_blank v, arePublic_blankAll vs]

/-- Blanked entries are public if they were, since a sensitive name hides its value in both. -/
theorem arePublicEntries_blankEntries : ∀ es, arePublicEntries (blankEntries es) = arePublicEntries es
  | [] => rfl
  | (k, v) :: rest => by
    rw [blankEntries, arePublicEntries, arePublicEntries, arePublicEntries_blankEntries rest]
    -- what is hidden is not public, with a value or without
    cases hides k with
    | true => rfl
    | false => rw [if_neg Bool.false_ne_true, isPublic_blank v]

end

mutual

/-- Public values are left alone. -/
theorem blank_of_isPublic : ∀ v, isPublic v = true → blank v = v
  | .bytes bs, h => by
    -- public octets are none
    obtain rfl := List.isEmpty_iff.mp h
    rfl
  | .buffer bs, h => by
    obtain rfl := List.isEmpty_iff.mp h
    rfl
  | .list vs, h => by rw [blank, blankAll_of_arePublic vs h]
  | .tuple vs, h => by rw [blank, blankAll_of_arePublic vs h]
  | .dict es, h => by rw [blank, blankEntries_of_arePublicEntries es h]
  | .null, _ | .bool _, _ | .int _, _ | .float _, _ | .text _, _ | .scheme _, _ | .purpose _, _ | .fault .., _ => rfl

theorem blankAll_of_arePublic : ∀ vs, arePublic vs = true → blankAll vs = vs
  | [], _ => rfl
  | v :: vs, h => by
    obtain ⟨hv, hvs⟩ := Bool.and_eq_true_iff.mp h
    rw [blankAll, blank_of_isPublic v hv, blankAll_of_arePublic vs hvs]

/-- Blanking leaves entries alone whose values are public, or hidden by nothing but null. -/
theorem blankEntries_of_arePublicEntries : ∀ es, arePublicEntries es = true → blankEntries es = es
  | [], _ => rfl
  | (k, v) :: rest, h => by
    obtain ⟨hentry, hrest⟩ := Bool.and_eq_true_iff.mp h
    obtain ⟨hk, hv⟩ := Bool.and_eq_true_iff.mp hentry
    have hk : hides k = false := by simpa using hk
    rw [blankEntries, hk, if_neg Bool.false_ne_true, blank_of_isPublic v hv,
      blankEntries_of_arePublicEntries rest hrest]

end

mutual

/-- **What masking reaches does not change by blanking.** -/
theorem isReached_blank : ∀ v, isReached (blank v) = isReached v
  | .list vs | .tuple vs => arePublic_blankAll vs
  | .dict es => areReached_blankEntries es
  | .null | .bool _ | .int _ | .float _ | .text _ | .bytes _ | .buffer _ | .scheme _ | .purpose _ | .fault .. => rfl

/-- Entries are reached one by one. -/
theorem areReached_blankEntries : ∀ es, areReached (blankEntries es) = areReached es
  | [] => rfl
  | (k, v) :: rest => by
    rw [blankEntries, areReached, areReached, areReached_blankEntries rest]
    -- what is hidden is reached, with a value or without
    cases hides k with
    | true => rfl
    | false => rw [if_neg Bool.false_ne_true, isReached_blank v]

end

/-- The same of fields, which are hidden by their names. -/
theorem reachesAll_blankFields (fs : Fields) : reachesAll (blankFields fs) = reachesAll fs := by
  induction fs with
  | nil => rfl
  | cons field rest ih =>
    obtain ⟨name, v⟩ := field
    -- the value is replaced only where its name already counts as reached
    change ((isSensitive name || isReached (if isSensitive name then .null else blank v))
      && reachesAll (blankFields rest)) = ((isSensitive name || isReached v) && reachesAll rest)
    rw [ih]
    cases isSensitive name with
    | true => rfl
    | false => rw [if_neg Bool.false_ne_true, isReached_blank v]

/-! ### Masking what is reached -/

/-- What stands for the value under the key of a dictionary. -/
def shownUnder (k v : Value) : Except RenderFault Value :=
  keyName k >>= fun name => shown name v

/-- Entries are masked one after another, each under its own key. -/
theorem entries_cons (k v : Value) (rest : List (Value × Value)) :
    entries ((k, v) :: rest) = do
      let first ← shownUnder k v
      let others ← entries rest
      return (k, first) :: others := by
  rw [entries, shownUnder]
  cases keyName k with
  | error fault => rfl
  | ok name =>
    dsimp only [Bind.bind, Except.bind]
    rw [shown]
    split <;> rfl

/-- A key that has a name hides what this name hides. -/
theorem hides_of_keyName {k : Value} {name : String} (hname : keyName k = .ok name) : hides k = isSensitive name := by
  rw [hides, hname]

/-- Under the name of a sensitive field nothing is looked at. -/
theorem shownUnder_of_hides {k : Value} (hk : hides k = true) (v : Value) : shownUnder k v = .ok redacted := by
  rw [shownUnder]
  cases hname : keyName k with
  | error fault => simp [hides, hname] at hk
  | ok name =>
    rw [hides_of_keyName hname] at hk
    dsimp only [Bind.bind, Except.bind]
    rw [shown, if_pos hk]

/-- Under any other key the value is masked, if the key has a name. -/
theorem shownUnder_of_not_hides {k : Value} (hk : hides k = false) (v : Value) :
    shownUnder k v = keyName k >>= fun _ => value v := by
  rw [shownUnder]
  cases hname : keyName k with
  | error fault => rfl
  | ok name =>
    rw [hides_of_keyName hname] at hk
    dsimp only [Bind.bind, Except.bind]
    rw [shown, hk, if_neg Bool.false_ne_true]

mutual

/-- What masking reaches does not show in what stands for the value. -/
theorem value_blank : ∀ v, isReached v = true → value (blank v) = value v
  | .list vs, h | .tuple vs, h => by rw [blank, blankAll_of_arePublic vs h]
  | .dict es, h => by rw [blank, value, value, entries_blankEntries es h]
  | .bytes bs, _ | .buffer bs, _ => by rw [blank, value, value, summary, summary, Bytes.length_wiped]
  | .null, _ | .bool _, _ | .int _, _ | .float _, _ | .text _, _ | .scheme _, _ | .purpose _, _ | .fault .., _ => rfl

/-- The same of entries. -/
theorem entries_blankEntries : ∀ es, areReached es = true → entries (blankEntries es) = entries es
  | [], _ => rfl
  | (k, v) :: rest, h => by
    obtain ⟨hentry, hrest⟩ := Bool.and_eq_true_iff.mp h
    rw [blankEntries, entries_cons, entries_cons, entries_blankEntries rest hrest]
    -- under a sensitive name both values are redacted, otherwise both are masked
    cases hk : hides k with
    | true => rw [shownUnder_of_hides hk, shownUnder_of_hides hk]
    | false =>
      rw [hk, Bool.false_or] at hentry
      rw [if_neg Bool.false_ne_true, shownUnder_of_not_hides hk, shownUnder_of_not_hides hk, value_blank v hentry]

end

/-- Masked fields do not show what was taken away. -/
theorem fields_blankFields {fs : Fields} (h : reachesAll fs = true) : fields (blankFields fs) = fields fs := by
  induction fs with
  | nil => rfl
  | cons field rest ih =>
    obtain ⟨name, v⟩ := field
    obtain ⟨hfield, hrest⟩ := Bool.and_eq_true_iff.mp h
    -- the name of a field is looked at first, as the key of an entry is
    change fields ((name, if isSensitive name then .null else blank v) :: blankFields rest) = _
    rw [fields_cons, fields_cons, ih hrest, shown, shown]
    cases hname : isSensitive name with
    | true => rfl
    | false =>
      have hv : isReached v = true := by simpa [hname] using hfield
      rw [if_neg Bool.false_ne_true, if_neg Bool.false_ne_true, if_neg Bool.false_ne_true, value_blank v hv]

/-- Fields that differ only in what masking reaches are masked to the same. -/
theorem fields_eq_of_blankFields_eq {fs gs : Fields} (h : reachesAll fs = true)
    (hblank : blankFields gs = blankFields fs) : fields gs = fields fs := by
  -- both are masked to what is left of them after blanking, since masking reaches all that is blanked in both
  have hgs : reachesAll gs = true := by
    rw [← reachesAll_blankFields, hblank, reachesAll_blankFields, h]
  calc fields gs = fields (blankFields gs) := (fields_blankFields hgs).symm
    _ = fields (blankFields fs) := by rw [hblank]
    _ = fields fs := fields_blankFields h

/-- Blanking keeps the number of fields, so both have some or neither has. -/
theorem isEmpty_eq_of_blankFields_eq {fs gs : Fields} (hblank : blankFields gs = blankFields fs) :
    gs.isEmpty = fs.isEmpty := by
  have hlength : gs.length = fs.length := by simpa [blankFields] using congrArg List.length hblank
  cases gs <;> cases fs <;> first | rfl | cases hlength

end Mask

/-- Lines in every format are functions of the masked fields. -/
theorem LogFormat.render_eq_of_fields_eq {r : Record} {gs : Fields} (hempty : gs.isEmpty = r.fields.isEmpty)
    (hfields : Mask.fields gs = Mask.fields r.fields) (format : LogFormat) (now : Moment)
    (operation : Option Operation) :
    format.render now operation { r with fields := gs } = format.render now operation r := by
  cases format with
  | json =>
    change asJson now operation { r with fields := gs } = asJson now operation r
    rw [asJson, asJson, jsonEntries, jsonEntries, hfields]
    rfl
  | human =>
    change asHuman now operation { r with fields := gs } = asHuman now operation r
    rw [asHuman, asHuman, fieldText, fieldText, hempty, hfields]
    rfl
  -- the bare format shows no fields
  | bare => rfl

end Shroud
