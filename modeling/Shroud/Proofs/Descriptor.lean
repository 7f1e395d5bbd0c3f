import Shroud.Descriptor

/-!
# Which descriptors are found

There is a descriptor for each registered scheme, and lookups find no others. A scheme is found by itself or by its name
(`Descriptor.ofScheme_eq_ok_iff`), and its algorithm by the text of its object identifier
(`Descriptor.ofAlgorithm_eq_ok_iff`). For every other value of any kind, both report that this value is not supported.
-/

namespace Shroud

/-- A key that all have of their own finds the one it belongs to. -/
theorem find?_key_eq_some_iff {α : Type} {all : List α} (hall : ∀ a, a ∈ all) {key : α → String}
    (hkey : Function.Injective key) {a : α} {text : String} : all.find? (key · == text) = some a ↔ text = key a := by
  constructor
  · intro h
    have hsame := List.find?_some h
    exact (eq_of_beq hsame).symm
  · rintro rfl
    -- the search does not fail, since all are listed, and what it finds has the same key
    cases hfound : all.find? (key · == key a) with
    | none => exact absurd (List.find?_eq_none.mp hfound a (hall a)) (by simp)
    | some b =>
      have hsame := List.find?_some hfound
      rw [hkey (eq_of_beq hsame)]

namespace Scheme

variable {s : Scheme}

/-- All schemes are listed. -/
theorem mem_all (s : Scheme) : s ∈ all := by
  cases s <;> decide

/-- Schemes have different names. -/
theorem name_injective : Function.Injective name := by
  intro s t h
  cases s <;> cases t <;> first | rfl | exact absurd h (by decide)

/-- Schemes have different object identifiers. -/
theorem oid_injective : Function.Injective oid := by
  intro s t h
  cases s <;> cases t <;> first | rfl | exact absurd h (by decide)

/-- No object identifier is the name of a scheme. -/
theorem oid_ne_name (s t : Scheme) : s.oid ≠ t.name := by
  cases s <;> cases t <;> decide

/-- A scheme is found by its own name only. -/
theorem ofName?_eq_some_iff {text : String} : ofName? text = some s ↔ text = s.name :=
  find?_key_eq_some_iff mem_all name_injective

/-- A scheme is found by its own object identifier only. -/
theorem ofOid?_eq_some_iff {text : String} : ofOid? text = some s ↔ text = s.oid :=
  find?_key_eq_some_iff mem_all oid_injective

/-- **What names a scheme**: the scheme itself, and exactly its name. -/
def IsNamedBy (s : Scheme) (v : Value) : Prop :=
  v = .scheme s ∨ v = .text s.name

@[simp] theorem scheme_descriptor (s : Scheme) : s.descriptor.scheme = s := by cases s <;> rfl

@[simp] theorem oid_descriptor (s : Scheme) : s.descriptor.oid = s.oid := by cases s <;> rfl

@[simp] theorem digest_descriptor (s : Scheme) : s.descriptor.digest = .text "sha1" := by cases s <;> rfl

@[simp] theorem blockSize_descriptor (s : Scheme) : s.descriptor.blockSize = blockSize := by
  cases s <;> rfl

end Scheme

/-- What is not supported is reported under the text that people see. -/
theorem Failure.notSupported_of_display {v : Value} {shown : String} (h : v.display = .ok shown) :
    Failure.notSupported v = .unsupported shown := by
  rw [notSupported, h]

namespace Descriptor

variable {v : Value} {d : Descriptor}

/-! ### Lookups by a name -/

/-- A value leads to the scheme that it names. A scheme counts as a text, its name. -/
theorem bind_ofName?_eq_some_iff {s : Scheme} : v.text?.bind Scheme.ofName? = some s ↔ s.IsNamedBy v := by
  unfold Scheme.IsNamedBy
  cases v with
  | text t => simp [Value.text?, Scheme.ofName?_eq_some_iff]
  | scheme t => simp [Value.text?, Scheme.ofName?_eq_some_iff, Scheme.name_injective.eq_iff]
  | _ => simp [Value.text?]

/-- **A scheme is found by what names it**, and by nothing else. -/
theorem ofScheme_eq_ok_iff : ofScheme v = .ok d ↔ ∃ s : Scheme, s.IsNamedBy v ∧ d = s.descriptor := by
  simp only [← bind_ofName?_eq_some_iff]
  unfold ofScheme
  cases v.text?.bind Scheme.ofName? <;> simp [eq_comm]

/-- Whatever is found is the descriptor of a scheme. -/
theorem ofScheme_eq_ok (h : ofScheme v = .ok d) : ∃ s : Scheme, d = s.descriptor := by
  obtain ⟨s, -, hd⟩ := ofScheme_eq_ok_iff.mp h
  exact ⟨s, hd⟩

/-- What names no scheme is not supported. -/
theorem ofScheme_eq_notSupported (h : ∀ s : Scheme, ¬ s.IsNamedBy v) : ofScheme v = .error (.notSupported v) := by
  -- a scheme that was found would be named by the value
  have hnone : v.text?.bind Scheme.ofName? = none :=
    Option.eq_none_iff_forall_ne_some.mpr fun s hs => h s (bind_ofName?_eq_some_iff.mp hs)
  rw [ofScheme, hnone]

/-- A scheme is found by itself. -/
@[simp] theorem ofScheme_scheme (s : Scheme) : ofScheme (.scheme s) = .ok s.descriptor :=
  ofScheme_eq_ok_iff.mpr ⟨s, .inl rfl, rfl⟩

/-- A scheme is found by its name. -/
@[simp] theorem ofScheme_name (s : Scheme) : ofScheme (.text s.name) = .ok s.descriptor :=
  ofScheme_eq_ok_iff.mpr ⟨s, .inr rfl, rfl⟩

/-! ### Lookups by an object identifier -/

/-- A value leads to the scheme whose object identifier it is. Schemes themselves are none. -/
theorem bind_ofOid?_eq_some_iff {s : Scheme} : v.text?.bind Scheme.ofOid? = some s ↔ v = .text s.oid := by
  cases v with
  | text t => simp [Value.text?, Scheme.ofOid?_eq_some_iff]
  -- a scheme counts as its name here too, and no name is an object identifier
  | scheme t => simpa [Value.text?, Scheme.ofOid?_eq_some_iff] using (Scheme.oid_ne_name s t).symm
  | _ => simp [Value.text?]

/-- **An algorithm is found by the text of its object identifier**, and by nothing else. -/
theorem ofAlgorithm_eq_ok_iff : ofAlgorithm v = .ok d ↔ ∃ s : Scheme, v = .text s.oid ∧ d = s.descriptor := by
  simp only [← bind_ofOid?_eq_some_iff]
  unfold ofAlgorithm
  cases v.text?.bind Scheme.ofOid? <;> simp [eq_comm]

/-- Whatever is found is the descriptor of a scheme. -/
theorem ofAlgorithm_eq_ok (h : ofAlgorithm v = .ok d) : ∃ s : Scheme, d = s.descriptor := by
  obtain ⟨s, -, hd⟩ := ofAlgorithm_eq_ok_iff.mp h
  exact ⟨s, hd⟩

/-- What is not the text of an object identifier is not supported. -/
theorem ofAlgorithm_eq_notSupported (h : ∀ s : Scheme, v ≠ .text s.oid) :
    ofAlgorithm v = .error (.notSupported v) := by
  have hnone : v.text?.bind Scheme.ofOid? = none :=
    Option.eq_none_iff_forall_ne_some.mpr fun s hs => h s (bind_ofOid?_eq_some_iff.mp hs)
  rw [ofAlgorithm, hnone]

/-- An algorithm is found by the object identifier of its scheme. -/
@[simp] theorem ofAlgorithm_oid (s : Scheme) : ofAlgorithm (.text s.oid) = .ok s.descriptor :=
  ofAlgorithm_eq_ok_iff.mpr ⟨s, rfl, rfl⟩

end Descriptor

end Shroud
