import Shroud.Proofs.Descriptor
import Shroud.Proofs.Log.Setups
import Shroud.Proofs.Results

/-!
# Settings that sources give

A value becomes that of a setting in two steps: it is read as a text, an integer or a truth value, and then it has to be
the name of a scheme, positive, or the name of a severity in upper case (`SettingField.Reads`). Which value this is
depends on what the sources have under the names of the one setting (`Sources.Chosen`), and a setting for which they
have nothing has its default. So each setting is given a value (`Sources.Gives`) or is rejected (`Sources.Rejects`), and
all six are treated alike, by one check (`SettingField.check`).

`Settings.ofSources_outcome` says that settings come out exactly if none is rejected, that they can be used as they are
and are read back, and that otherwise the rejected ones are reported, each once and in their order.
-/

namespace Shroud

namespace SettingField

/-- The settings in the order in which they are reported. -/
def all : List SettingField :=
  [defaultScheme, defaultIterations, saltLength, maxIterations, logLevel, logJson]

theorem mem_all (f : SettingField) : f ∈ all := by
  cases f <;> decide

theorem nodup_all : all.Nodup := by
  decide

/-- Whether a setting is a number of things. -/
def isCount : SettingField → Bool
  | defaultIterations | saltLength | maxIterations => true
  | _ => false

/-- The value of a setting for which no source has one. -/
def default : SettingField → Value
  | defaultScheme => .text Scheme.tripleDes.name
  | defaultIterations => .int 2048
  | saltLength => .int 8
  | maxIterations => .int 10000000
  | logLevel => .text Severity.warning.name
  | logJson => .bool false

/-- **What a value is read as for a setting.** A value for which there is nothing is invalid. -/
inductive Reads : SettingField → Value → Value → Prop where
  | scheme {v : Value} {s : Scheme} (htext : Coercion.text v = .ok s.name) : Reads defaultScheme v (.text s.name)
  | count {f : SettingField} {v : Value} {n : Int} (hf : f.isCount = true) (hinteger : Coercion.integer v = .ok n)
      (hpos : 1 ≤ n) : Reads f v (.int n)
  | level {v : Value} {name : String} {l : Severity} (htext : Coercion.text v = .ok name)
      (hname : Text.upper name = l.name) : Reads logLevel v (.text l.name)
  | json {v : Value} {b : Bool} (htruth : Coercion.truth v = .ok b) : Reads logJson v (.bool b)

end SettingField

namespace Sources

/-- What the sources have for a setting under its names: as an argument, in the environment, and in the file. -/
def own (s : Sources) (f : SettingField) : Option Value × Option String × Option String :=
  (firstGiven? f.name s.arguments, lastSet? f.variableName s.environment, s.lastInFile? f.variableName)

/-- **The value that is chosen for a setting**: the argument, otherwise the variable of the environment, otherwise the
one of the file. -/
inductive Chosen (s : Sources) (f : SettingField) : Value → Prop where
  | argument {v : Value} {set filed : Option String} (h : s.own f = (some v, set, filed)) : Chosen s f v
  | environment {text : String} {filed : Option String} (h : s.own f = (none, some text, filed)) :
    Chosen s f (.text text)
  | file {text : String} (h : s.own f = (none, none, some text)) : Chosen s f (.text text)

/-- **The value that sources give a setting**: what the chosen value is read as, or the default. -/
inductive Gives (s : Sources) (f : SettingField) : Value → Prop where
  | chosen {v w : Value} (hchosen : s.Chosen f v) (hreads : f.Reads v w) : Gives s f w
  | default (h : s.own f = (none, none, none)) : Gives s f f.default

/-- **A setting is rejected** if its chosen value is invalid. -/
def Rejects (s : Sources) (f : SettingField) : Prop :=
  ∃ v, s.Chosen f v ∧ ∀ w, ¬ f.Reads v w

end Sources

namespace Settings

/-- The value of a setting. -/
def value (settings : Settings) : SettingField → Value
  | .defaultScheme => .text settings.defaultScheme.name
  | .defaultIterations => .int settings.defaultIterations
  | .saltLength => .int settings.saltLength
  | .maxIterations => .int settings.maxIterations
  | .logLevel => .text settings.logLevel.name
  | .logJson => .bool settings.logJson

/-- **Settings that can be used as they are**: the scheme is found, the counts are positive, and the level has one of
the names of severities. -/
structure Usable (settings : Settings) : Prop where
  scheme : ∃ d, Descriptor.ofScheme (settings.value .defaultScheme) = .ok d
  iterations : 1 ≤ settings.defaultIterations
  salt : 1 ≤ settings.saltLength
  ceiling : 1 ≤ settings.maxIterations
  level : ∃ name ∈ ["DEBUG", "INFO", "WARNING", "ERROR", "CRITICAL"], settings.value .logLevel = .text name

/-- The settings that are reported as rejected. -/
def reported : Except (List SettingFault) Settings → List SettingField
  | .ok _ => []
  | .error faults => faults.map (·.field)

end Settings

/-! ### One check for all settings -/

namespace Severity

/-- All levels are listed. -/
theorem mem_all (l : Severity) : l ∈ all := by
  cases l <;> decide

/-- Levels have different names. -/
theorem name_injective : Function.Injective name := by
  intro l m h
  have hsame : ofName? l.name = ofName? m.name := congrArg ofName? h
  rw [ofName?_name, ofName?_name] at hsame
  exact Option.some.inj hsame

/-- A level is found by its own name only. -/
theorem ofName?_eq_some_iff {l : Severity} {text : String} : ofName? text = some l ↔ text = l.name :=
  find?_key_eq_some_iff mem_all name_injective

/-- The names of levels are in capitals already. -/
theorem upper_name (l : Severity) : Text.upper l.name = l.name := by
  cases l <;> decide +kernel

end Severity

namespace Coercion

variable {v : Value}

/-- **A scheme is given by its name**, which is a text once it is read. -/
theorem scheme_eq_ok_iff {s : Scheme} : scheme v = .ok s ↔ text v = .ok s.name := by
  rw [scheme, bind_eq_ok_iff]
  constructor
  · rintro ⟨name, htext, h⟩
    -- a name that was looked up is the name of what was found
    cases hname : Scheme.ofName? name with
    | none =>
      rw [hname] at h
      exact nomatch h
    | some found =>
      rw [hname] at h
      obtain rfl := Except.ok.inj h
      rw [htext, Scheme.ofName?_eq_some_iff.mp hname]
  · intro htext
    refine ⟨s.name, htext, ?_⟩
    rw [Scheme.ofName?_eq_some_iff.mpr rfl]

/-- **A count is an integer from one on.** -/
theorem positive_eq_ok_iff {n : Nat} : positive v = .ok n ↔ integer v = .ok (n : Int) ∧ 1 ≤ n := by
  rw [positive, bind_eq_ok_iff]
  constructor
  · rintro ⟨m, hinteger, h⟩
    -- the comparison is on integers, the count a natural number
    by_cases hm : m < 1
    · rw [if_pos hm] at h
      exact nomatch h
    · rw [if_neg hm] at h
      have hn : m.toNat = n := Except.ok.inj h
      have hm' : m = (n : Int) := by omega
      exact ⟨hm' ▸ hinteger, by omega⟩
  · rintro ⟨hinteger, hpos⟩
    refine ⟨n, hinteger, ?_⟩
    rw [if_neg (by omega), Int.toNat_natCast]

/-- **A level is given by its name**, in letters of any case. -/
theorem severity_eq_ok_iff {l : Severity} :
    severity v = .ok l ↔ ∃ name, text v = .ok name ∧ Text.upper name = l.name := by
  rw [severity, bind_eq_ok_iff]
  refine exists_congr fun name => and_congr_right fun _ => ?_
  dsimp only
  rw [← Severity.ofName?_eq_some_iff]
  cases Severity.ofName? (Text.upper name) <;> simp

end Coercion

/-- A value as that of a setting, or the problem with it. -/
def SettingField.check (f : SettingField) (v : Value) : Except SettingProblem Value :=
  match f with
  | defaultScheme => (Coercion.scheme v).map fun s => .text s.name
  | defaultIterations | saltLength | maxIterations => (Coercion.positive v).map fun n : Nat => .int (n : Int)
  | logLevel => (Coercion.severity v).map fun l => .text l.name
  | logJson => (Coercion.truth v).map .bool

/-- The three counts are checked in the same way. -/
theorem Coercion.map_positive_eq_ok_iff {f : SettingField} (hf : f.isCount = true) {v w : Value} :
    ((positive v).map fun n : Nat => Value.int (n : Int)) = .ok w ↔ f.Reads v w := by
  rw [map_eq_ok_iff]
  constructor
  · rintro ⟨n, hn, rfl⟩
    obtain ⟨hinteger, hpos⟩ := positive_eq_ok_iff.mp hn
    exact .count hf hinteger (by omega)
  -- of the four rules only the one for counts fits
  · rintro (_ | @⟨_, _, n, -, hinteger, hpos⟩ | _ | _)
    · exact nomatch hf
    · obtain ⟨n, rfl⟩ := Int.eq_ofNat_of_zero_le (Int.le_trans (by decide) hpos)
      exact ⟨n, positive_eq_ok_iff.mpr ⟨hinteger, by omega⟩, rfl⟩
    · exact nomatch hf
    · exact nomatch hf

/-- Checking a value is reading it. -/
theorem SettingField.check_eq_ok_iff {f : SettingField} {v w : Value} : f.check v = .ok w ↔ f.Reads v w := by
  -- one case for each setting; the three counts share theirs
  cases f with
  | defaultScheme =>
    rw [check, map_eq_ok_iff]
    constructor
    · rintro ⟨s, hs, rfl⟩
      exact .scheme (Coercion.scheme_eq_ok_iff.mp hs)
    · intro h
      cases h with
      | scheme htext => exact ⟨_, Coercion.scheme_eq_ok_iff.mpr htext, rfl⟩
      | count hf => exact nomatch hf
  | defaultIterations => exact Coercion.map_positive_eq_ok_iff rfl
  | saltLength => exact Coercion.map_positive_eq_ok_iff rfl
  | maxIterations => exact Coercion.map_positive_eq_ok_iff rfl
  | logLevel =>
    rw [check, map_eq_ok_iff]
    constructor
    · rintro ⟨l, hl, rfl⟩
      obtain ⟨name, htext, hname⟩ := Coercion.severity_eq_ok_iff.mp hl
      exact .level htext hname
    · intro h
      cases h with
      | level htext hname => exact ⟨_, Coercion.severity_eq_ok_iff.mpr ⟨_, htext, hname⟩, rfl⟩
      | count hf => exact nomatch hf
  | logJson =>
    rw [check, map_eq_ok_iff]
    constructor
    · rintro ⟨b, hb, rfl⟩
      exact .json hb
    · intro h
      cases h with
      | json htruth => exact ⟨_, htruth, rfl⟩
      | count hf => exact nomatch hf

/-- Counts that were read are positive. -/
theorem SettingField.Reads.count_pos {f : SettingField} {v : Value} {n : Int} (h : f.Reads v (.int n)) : 1 ≤ n := by
  cases h with
  | count _ _ hpos => exact hpos

/-- What a value is read as is read as itself. -/
theorem SettingField.Reads.again {f : SettingField} {v w : Value} (h : f.Reads v w) : f.Reads w w := by
  cases h with
  | scheme => exact .scheme rfl
  | count hf _ hpos => exact .count hf rfl hpos
  | @level _ _ l => exact .level rfl l.upper_name
  | json => exact .json rfl

/-- Every default passes its own check. -/
theorem SettingField.reads_default (f : SettingField) : f.Reads f.default f.default := by
  cases f with
  | defaultScheme => exact .scheme rfl
  | defaultIterations => exact .count rfl rfl (by decide)
  | saltLength => exact .count rfl rfl (by decide)
  | maxIterations => exact .count rfl rfl (by decide)
  | logLevel => exact .level rfl Severity.warning.upper_name
  | logJson => exact .json rfl

/-! ### One setting -/

namespace Sources

variable {s t : Sources} {f : SettingField}

/-- The value of a setting is the first of those that it has of its own. -/
theorem value?_eq (s : Sources) (f : SettingField) :
    s.value? f = (s.own f).1.or (((s.own f).2.1.or (s.own f).2.2).map .text) := rfl

/-- **An argument comes before the environment**, and this before the file. -/
theorem value?_eq_some_iff {v : Value} : s.value? f = some v ↔ s.Chosen f v := by
  rw [value?_eq]
  constructor
  · intro h
    -- the three sources, in the order in which they count
    match howns : s.own f with
    | (some given, _, _) =>
      rw [howns] at h
      obtain rfl := Option.some.inj h
      exact .argument howns
    | (none, some text, _) =>
      rw [howns] at h
      obtain rfl := Option.some.inj h
      exact .environment howns
    | (none, none, some text) =>
      rw [howns] at h
      obtain rfl := Option.some.inj h
      exact .file howns
    | (none, none, none) =>
      rw [howns] at h
      exact nomatch h
  · rintro (h | h | h) <;> rw [h] <;> rfl

/-- A setting has no value if it is given nowhere. -/
theorem value?_eq_none_iff : s.value? f = none ↔ s.own f = (none, none, none) := by
  rw [value?_eq]
  match howns : s.own f with
  | (some given, _, _) => simp
  | (none, some text, _) => simp
  | (none, none, some text) => simp
  | (none, none, none) => simp

/-- A setting as a value, or the fault in it. -/
def checked (s : Sources) (f : SettingField) : Except SettingFault Value :=
  s.read f f.check f.default

/-- Every setting is read as its check tells. -/
theorem map_read {α : Type} {coercion : Value → Except SettingProblem α} (default : α) {shown : α → Value}
    (hcheck : ∀ v, f.check v = (coercion v).map shown) (hdefault : f.default = shown default) :
    (s.read f coercion default).map shown = s.checked f := by
  unfold checked read
  cases s.value? f with
  | none => exact congrArg Except.ok hdefault.symm
  | some v =>
    dsimp only
    rw [hcheck]
    cases coercion v <;> rfl

/-- The value that was chosen is checked, and its fault is that of the setting. -/
theorem checked_of_chosen {v : Value} (h : s.Chosen f v) :
    s.checked f = (f.check v).mapError fun problem => ⟨f, problem⟩ := by
  unfold checked read
  rw [value?_eq_some_iff.mpr h]
  cases hcheck : f.check v <;> simp only [hcheck] <;> rfl

/-- A setting that is given nowhere has its default. -/
theorem checked_of_none (h : s.own f = (none, none, none)) : s.checked f = .ok f.default := by
  unfold checked read
  rw [value?_eq_none_iff.mpr h]

/-- What is chosen depends on what the sources have of their own for the setting. -/
theorem rejects_congr (h : s.own f = t.own f) : s.Rejects f ↔ t.Rejects f := by
  unfold Rejects
  refine exists_congr fun v => and_congr_left fun _ => ?_
  rw [← value?_eq_some_iff, ← value?_eq_some_iff, value?_eq, value?_eq, h]

/-- A setting is given a value, or it is rejected. -/
theorem checked_cases (s : Sources) (f : SettingField) :
    (∃ w, s.checked f = .ok w ∧ s.Gives f w ∧ ¬ s.Rejects f)
      ∨ ∃ fault, s.checked f = .error fault ∧ fault.field = f ∧ s.Rejects f := by
  -- only one value can be chosen, so a setting is not both given and rejected
  have hunique : ∀ {v w}, s.Chosen f v → s.Chosen f w → v = w := fun hv hw =>
    Option.some.inj ((value?_eq_some_iff.mpr hv).symm.trans (value?_eq_some_iff.mpr hw))
  cases hvalue : s.value? f with
  | none =>
    have hnone := value?_eq_none_iff.mp hvalue
    refine .inl ⟨_, checked_of_none hnone, .default hnone, ?_⟩
    rintro ⟨v, hv, -⟩
    exact nomatch hvalue.symm.trans (value?_eq_some_iff.mpr hv)
  | some v =>
    have hchosen := value?_eq_some_iff.mp hvalue
    have hchecked := checked_of_chosen hchosen
    cases hcheck : f.check v with
    | ok w =>
      have hreads := SettingField.check_eq_ok_iff.mp hcheck
      rw [hcheck] at hchecked
      refine .inl ⟨w, hchecked, .chosen hchosen hreads, ?_⟩
      rintro ⟨v', hv', hinvalid⟩
      exact hinvalid w (hunique hchosen hv' ▸ hreads)
    | error problem =>
      rw [hcheck] at hchecked
      refine .inr ⟨⟨f, problem⟩, hchecked, rfl, v, hchosen, fun w hreads => ?_⟩
      exact nomatch hcheck.symm.trans (SettingField.check_eq_ok_iff.mpr hreads)

/-- Whatever sources give is read as itself. -/
theorem Gives.again {w : Value} (h : s.Gives f w) : f.Reads w w := by
  cases h with
  | chosen _ hreads => exact hreads.again
  | default => exact f.reads_default

/-- A setting that passes its check is given its value, and is not rejected. -/
theorem gives_of_checked {w : Value} (h : s.checked f = .ok w) : s.Gives f w ∧ ¬ s.Rejects f := by
  obtain ⟨w', hw', hgives, hnot⟩ | ⟨fault, hfault, -⟩ := s.checked_cases f
  · obtain rfl := Except.ok.inj (h.symm.trans hw')
    exact ⟨hgives, hnot⟩
  · exact nomatch h.symm.trans hfault

end Sources

/-! ### All settings -/

namespace Settings

variable {s : Sources}

/-- A result has no fault if it is one. -/
theorem faultOf_eq_nil_iff {α : Type} {x : Except SettingFault α} : faultOf x = [] ↔ ∃ a, x = .ok a := by
  cases x <;> simp [faultOf]

/-- A failure has one fault. -/
theorem mem_faultOf_iff {α : Type} {x : Except SettingFault α} {fault : SettingFault} :
    fault ∈ faultOf x ↔ x = .error fault := by
  cases x <;> simp [faultOf, eq_comm]

/-- What is made of a result has the same faults. -/
theorem faultOf_map {α β : Type} (x : Except SettingFault α) (g : α → β) : faultOf (x.map g) = faultOf x := by
  cases x <;> rfl

/-- The faults in all settings, in their order. -/
def faultsOf (s : Sources) : List SettingFault :=
  SettingField.all.flatMap fun f => faultOf (s.checked f)

/-- Settings come out if there is no fault, and otherwise all faults. -/
theorem ofSources_cases (s : Sources) :
    (∃ settings, ofSources s = .ok settings ∧ ∀ f, s.checked f = .ok (settings.value f))
      ∨ ofSources s = .error (faultsOf s) ∧ faultsOf s ≠ [] := by
  -- what the six readings have to do with the check
  have hscheme := Sources.map_read (s := s) (f := .defaultScheme) Scheme.tripleDes (fun _ => rfl) rfl
  have hiterations := Sources.map_read (s := s) (f := .defaultIterations) (2048 : Nat) (fun _ => rfl) rfl
  have hsalt := Sources.map_read (s := s) (f := .saltLength) (8 : Nat) (fun _ => rfl) rfl
  have hceiling := Sources.map_read (s := s) (f := .maxIterations) (10000000 : Nat) (fun _ => rfl) rfl
  have hlevel := Sources.map_read (s := s) (f := .logLevel) Severity.warning (fun _ => rfl) rfl
  have hjson := Sources.map_read (s := s) (f := .logJson) false (fun _ => rfl) rfl
  -- the faults one after another are those of the six readings
  have hfaults : faultsOf s = faultOf (s.read .defaultScheme Coercion.scheme .tripleDes)
      ++ faultOf (s.read .defaultIterations Coercion.positive 2048)
      ++ faultOf (s.read .saltLength Coercion.positive 8) ++ faultOf (s.read .maxIterations Coercion.positive 10000000)
      ++ faultOf (s.read .logLevel Coercion.severity .warning) ++ faultOf (s.read .logJson Coercion.truth false) := by
    simp only [faultsOf, SettingField.all, List.flatMap_cons, List.flatMap_nil, List.append_nil, List.append_assoc,
      ← hscheme, ← hiterations, ← hsalt, ← hceiling, ← hlevel, ← hjson, faultOf_map]
  -- settings come out exactly if none of the six readings failed
  unfold ofSources
  dsimp only
  split
  · next scheme iterations salt ceiling level json h₁ h₂ h₃ h₄ h₅ h₆ =>
    refine .inl ⟨_, rfl, fun f => ?_⟩
    rw [h₁] at hscheme
    rw [h₂] at hiterations
    rw [h₃] at hsalt
    rw [h₄] at hceiling
    rw [h₅] at hlevel
    rw [h₆] at hjson
    cases f with
    | defaultScheme => exact hscheme.symm
    | defaultIterations => exact hiterations.symm
    | saltLength => exact hsalt.symm
    | maxIterations => exact hceiling.symm
    | logLevel => exact hlevel.symm
    | logJson => exact hjson.symm
  · next hnot =>
    refine .inr ⟨congrArg _ hfaults.symm, fun hnil => ?_⟩
    rw [hfaults] at hnil
    simp only [List.append_eq_nil_iff, faultOf_eq_nil_iff] at hnil
    obtain ⟨⟨⟨⟨⟨⟨scheme, h₁⟩, iterations, h₂⟩, salt, h₃⟩, ceiling, h₄⟩, level, h₅⟩, json, h₆⟩ := hnil
    exact hnot scheme iterations salt ceiling level json h₁ h₂ h₃ h₄ h₅ h₆

/-- **The faults are those of the settings that are rejected.** -/
theorem mem_faults_iff (s : Sources) (f : SettingField) : f ∈ (faultsOf s).map (·.field) ↔ s.Rejects f := by
  rw [List.mem_map]
  constructor
  · rintro ⟨fault, hfault, rfl⟩
    obtain ⟨f, -, hf⟩ := List.mem_flatMap.mp hfault
    have herror := mem_faultOf_iff.mp hf
    -- a setting with a fault has failed its check, which is to be rejected
    obtain ⟨w, hok, -⟩ | ⟨fault', herror', hfield, hrejects⟩ := s.checked_cases f
    · exact nomatch herror.symm.trans hok
    · obtain rfl := Except.error.inj (herror.symm.trans herror')
      exact hfield ▸ hrejects
  · intro hrejects
    obtain ⟨_, -, -, hnot⟩ | ⟨fault, herror, hfield, -⟩ := s.checked_cases f
    · exact absurd hrejects hnot
    · exact ⟨fault, List.mem_flatMap.mpr ⟨f, f.mem_all, mem_faultOf_iff.mpr herror⟩, hfield⟩

/-- The faults stand in the order of the settings, one at most for each. -/
theorem sublist_faults (s : Sources) (fs : List SettingField) :
    ((fs.flatMap fun f => faultOf (s.checked f)).map (·.field)).Sublist fs := by
  induction fs with
  | nil => exact .slnil
  | cons f fs ih =>
    rw [List.flatMap_cons, List.map_append]
    -- a setting adds its own fault to those of the later ones, or none
    obtain ⟨w, hok, -⟩ | ⟨fault, herror, hfield, -⟩ := s.checked_cases f
    · rw [hok]
      exact ih.cons f
    · rw [herror, ← hfield]
      exact ih.cons_cons fault.field

/-- The faults that are reported are all faults. -/
theorem mem_reported_iff (s : Sources) (f : SettingField) : f ∈ reported (ofSources s) ↔ s.Rejects f := by
  obtain ⟨settings, hok, hvalues⟩ | ⟨herror, -⟩ := ofSources_cases s
  · rw [hok]
    exact iff_of_false List.not_mem_nil (Sources.gives_of_checked (hvalues f)).2
  · rw [herror]
    exact mem_faults_iff s f

/-- Faults are in the order of the settings, one for each. -/
theorem sublist_all (s : Sources) : ((faultsOf s).map (·.field)).Sublist SettingField.all :=
  sublist_faults s SettingField.all

/-- Settings all of whose values are read as themselves. -/
def Settled (settings : Settings) : Prop :=
  ∀ f : SettingField, f.Reads (settings.value f) (settings.value f)

/-- Settings that are handed over as arguments are found under their names. -/
theorem firstGiven?_toFields (settings : Settings) (f : SettingField) :
    Sources.firstGiven? f.name settings.toFields = some (settings.value f) := by
  cases f <;> rfl

/-- Handed over as arguments, values that read as themselves pass, whatever else is given. -/
theorem checked_toFields {settings : Settings} {f : SettingField} (h : f.Reads (settings.value f) (settings.value f))
    (t : Sources) : Sources.checked { t with arguments := settings.toFields } f = .ok (settings.value f) := by
  have hchosen : Sources.Chosen { t with arguments := settings.toFields } f (settings.value f) :=
    .argument (congrArg (·, _) (settings.firstGiven?_toFields f))
  rw [Sources.checked_of_chosen hchosen, SettingField.check_eq_ok_iff.mpr h]
  rfl

/-- Settings are determined by their values. -/
theorem eq_of_value_eq {settings settings' : Settings} (h : ∀ f, settings.value f = settings'.value f) :
    settings = settings' := by
  -- each value tells its setting, since names are different
  have hscheme := Scheme.name_injective (Value.text.inj (h .defaultScheme))
  have hiterations := Int.ofNat.inj (Value.int.inj (h .defaultIterations))
  have hsalt := Int.ofNat.inj (Value.int.inj (h .saltLength))
  have hceiling := Int.ofNat.inj (Value.int.inj (h .maxIterations))
  have hlevel := Severity.name_injective (Value.text.inj (h .logLevel))
  have hjson := Value.bool.inj (h .logJson)
  cases settings
  cases settings'
  simp_all

/-- Settings are read back from their own values. -/
theorem ofSources_toFields {settings : Settings} (h : settings.Settled) (t : Sources) :
    ofSources { t with arguments := settings.toFields } = .ok settings := by
  have hchecked := fun f => checked_toFields (h f) t
  obtain ⟨settings', hok, hvalues⟩ | ⟨-, hfaults⟩ := ofSources_cases { t with arguments := settings.toFields }
  · rw [hok]
    exact congrArg _ (eq_of_value_eq fun f => Except.ok.inj ((hvalues f).symm.trans (hchecked f)))
  · refine absurd ?_ hfaults
    unfold faultsOf
    rw [List.flatMap_eq_nil_iff]
    exact fun f _ => faultOf_eq_nil_iff.mpr ⟨_, hchecked f⟩

/-- Settings that were read can be used. -/
theorem usable_of_settled {settings : Settings} (h : settings.Settled) :
    settings.Usable where
  scheme := ⟨_, Descriptor.ofScheme_name settings.defaultScheme⟩
  iterations := Int.ofNat_le.mp (h .defaultIterations).count_pos
  salt := Int.ofNat_le.mp (h .saltLength).count_pos
  ceiling := Int.ofNat_le.mp (h .maxIterations).count_pos
  level := ⟨_, by cases settings.logLevel <;> decide, rfl⟩

/-- With settings that can be read, the log is set up with what they say. -/
theorem setUpLog_of_ofSources {settings : Settings} (h : ofSources s = .ok settings) (drawn : Nat) (journal : Journal) :
    ((⟨s, none, drawn, journal⟩ : Session).setUpLog .null .null).1 = .ok () := by
  have hsettings : (⟨s, none, drawn, journal⟩ : Session).settings.1 = .ok settings := by
    simp only [Session.settings, load, h]
  exact Session.setUpLog_eq_ok_iff.mpr ⟨_, _, settings, hsettings, .ofSettings, rfl⟩

/-- **Settings come out usable, or all faults are reported.** For all sources, either each setting is given its value
and none is rejected, and the settings can be used as they are: among other things the log can be set up with them, and
they are read back from their own values whatever the other sources have. Or those that are rejected are reported, each
once and in their order. And whether a setting is reported depends only on what the sources have under its own names. -/
theorem ofSources_outcome (s : Sources) :
    ((∃ settings, ofSources s = .ok settings ∧ (∀ f, s.Gives f (settings.value f)) ∧ (∀ f, ¬ s.Rejects f)
        ∧ settings.Usable
        ∧ (∀ drawn journal, ((⟨s, none, drawn, journal⟩ : Session).setUpLog .null .null).1 = .ok ())
        ∧ ∀ t : Sources, ofSources { t with arguments := settings.toFields } = .ok settings)
      ∨ ∃ faults, ofSources s = .error faults ∧ faults ≠ [] ∧ (faults.map (·.field)).Sublist SettingField.all
        ∧ (faults.map (·.field)).Nodup ∧ ∀ f, f ∈ faults.map (·.field) ↔ s.Rejects f)
      ∧ ∀ (t : Sources) (f : SettingField), s.own f = t.own f →
        (f ∈ reported (ofSources s) ↔ f ∈ reported (ofSources t)) := by
  refine ⟨?_, fun t f hown => ?_⟩
  -- either all settings pass, and can be passed again, or some fault is reported
  · obtain ⟨settings, hok, hvalues⟩ | ⟨herror, hfaults⟩ := ofSources_cases s
    · have hgives := fun f => (Sources.gives_of_checked (hvalues f)).1
      have hreads := fun f => (hgives f).again
      exact .inl ⟨settings, hok, hgives, fun f => (Sources.gives_of_checked (hvalues f)).2, usable_of_settled hreads,
        setUpLog_of_ofSources hok, ofSources_toFields hreads⟩
    · have hsublist := sublist_all s
      exact .inr ⟨_, herror, hfaults, hsublist, SettingField.nodup_all.sublist hsublist, mem_faults_iff s⟩
  · rw [mem_reported_iff, mem_reported_iff]
    exact Sources.rejects_congr hown

/-- An argument and two variables, of which two are no values. -/
def twoFaults : Sources where
  arguments := [("salt_length", .int 0)]
  environment := [("PKCS12_PBE_LOG_LEVEL", "loud"), ("PKCS12_PBE_LOG_JSON", "Yes")]

/-- Both faults are reported, in their order, and neither depends on where the others come from. -/
theorem ofSources_outcome_two_faults :
    ofSources twoFaults = .error [⟨.saltLength, .notPositive⟩, ⟨.logLevel, .unknownLevel "LOUD"⟩]
      ∧ twoFaults.own .saltLength = Sources.own { arguments := twoFaults.arguments } .saltLength
      ∧ (.saltLength ∈ reported (ofSources twoFaults)
        ↔ .saltLength ∈ reported (ofSources { arguments := twoFaults.arguments })) :=
  ⟨rfl, rfl, (ofSources_outcome twoFaults).2 _ _ rfl⟩

end Settings

end Shroud
