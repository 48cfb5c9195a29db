import Uniprocessor.Config
import Uniprocessor.Proofs.Outcome

/-!
What a configuration holds, as JSON.

The fields of a configuration are typed, and what it is built from is not. Seen as JSON
(`Config.value`), what a field holds is what was given for it, or else what it held before
(`Config.overlay`): a value of another type is refused (`value_of_ofValues`), and to replace
settings is to read six values anew (`replace_eq`). So whatever way a configuration was had
(`Config.Made`), it holds what was last given, and that is in range (`Made.holds`).
-/

namespace Uniprocessor.Config

variable {α : Type} {c c' : Config} {settings : Settings} {key : String}

/-! ### One setting -/

/-- A type that values of settings may have: its name in a message, and how its members stand
in JSON. -/
structure Shape (α : Type) where
  name : String
  write : α → Json
  read? : Json → Option α
  read?_eq_some {j : Json} {a : α} : read? j = some a ↔ j = write a

namespace Shape

def text : Shape Text where
  name := "str"
  write := .str
  read?
    | .str s => some s
    | _ => none
  read?_eq_some {j a} := by cases j <;> simp

def number : Shape Int where
  name := "int"
  write := .int
  read?
    | .int n => some n
    | _ => none
  read?_eq_some {j a} := by cases j <;> simp

/-- A number that may be left open. -/
def limit : Shape (Option Int) where
  name := "int"
  write n := n.elim .null .int
  read?
    | .null => some none
    | .int n => some (some n)
    | _ => none
  read?_eq_some {j a} := by cases j <;> cases a <;> simp

def flag : Shape Bool where
  name := "bool"
  write := .bool
  read?
    | .bool b => some b
    | _ => none
  read?_eq_some {j a} := by cases j <;> simp

/-- Takes a value of the shape. -/
def take (shape : Shape α) (key : String) (j : Json) : Except ConfigError α :=
  match shape.read? j with
  | some a => .ok a
  | none => .error (.wrongType key shape.name j.kind)

theorem take_eq_ok_iff {shape : Shape α} {j : Json} {a : α} :
    shape.take key j = .ok a ↔ j = shape.write a := by
  rw [← shape.read?_eq_some]
  unfold take
  cases shape.read? j <;> simp

end Shape

/-- What stands for a setting: what is given for it, or else what was there before. -/
def overlay (settings : Settings) (before : Text → Json) (key : Text) : Json :=
  (given? settings key).getD (before key)

theorem textSetting_eq (old : Text) :
    textSetting settings key old = Shape.text.take key ((given? settings key).getD (.str old)) := by
  unfold textSetting
  cases given? settings key with
  | none => rfl
  | some j => cases j <;> rfl

theorem numberSetting_eq (old : Int) :
    numberSetting settings key old =
      Shape.number.take key ((given? settings key).getD (.int old)) := by
  unfold numberSetting
  cases given? settings key with
  | none => rfl
  | some j => cases j <;> rfl

theorem limitSetting_eq (old : Option Int) :
    limitSetting settings key old =
      Shape.limit.take key ((given? settings key).getD (old.elim .null .int)) := by
  unfold limitSetting
  cases given? settings key with
  | none => cases old <;> rfl
  | some j => cases j <;> rfl

theorem flagSetting_eq (old : Bool) :
    flagSetting settings key old =
      Shape.flag.take key ((given? settings key).getD (.bool old)) := by
  unfold flagSetting
  cases given? settings key with
  | none => rfl
  | some j => cases j <;> rfl

/-! ### All of them -/

/-- The settings that a configuration stands for. -/
def entries (c : Config) : Settings :=
  [("policy", .str c.policy), ("quantum", .int c.quantum), ("num_resources", .int c.resources),
    ("max_ticks", Shape.limit.write c.maxTicks), ("quiet", .bool c.quiet),
    ("log_level", .str c.logLevel)]

/-- What it holds for a setting. -/
def value (c : Config) (key : Text) : Json := (given? c.entries key).getD .null

theorem forall_keys {P : Text → Prop} :
    (∀ key ∈ keys, P key) ↔ P "policy" ∧ P "quantum" ∧ P "num_resources" ∧ P "max_ticks" ∧
      P "quiet" ∧ P "log_level" := by
  simp [keys]

/-- Takes the six values, in the order of the fields. -/
def ofValues (value : Text → Json) : Except ConfigError Config := do
  let policy ← Shape.text.take "policy" (value "policy")
  let quantum ← Shape.number.take "quantum" (value "quantum")
  let resources ← Shape.number.take "num_resources" (value "num_resources")
  let maxTicks ← Shape.limit.take "max_ticks" (value "max_ticks")
  let quiet ← Shape.flag.take "quiet" (value "quiet")
  let logLevel ← Shape.text.take "log_level" (value "log_level")
  pure { policy, quantum, resources, maxTicks, quiet, logLevel }

theorem replace_eq (c : Config) (settings : Settings) :
    c.replace settings = ofValues (overlay settings c.value) := by
  simp only [replace, textSetting_eq, numberSetting_eq, limitSetting_eq, flagSetting_eq]
  rfl

theorem ofValues_congr {value value' : Text → Json} (same : ∀ key ∈ keys, value key = value' key) :
    ofValues value = ofValues value' := by
  obtain ⟨policy, quantum, resources, maxTicks, quiet, logLevel⟩ := forall_keys.mp same
  simp only [ofValues, policy, quantum, resources, maxTicks, quiet, logLevel]

/-- The values are held as they are. -/
theorem value_of_ofValues {value : Text → Json} (taken : ofValues value = .ok c) :
    ∀ key ∈ keys, c.value key = value key := by
  simp only [ofValues, Except.bind_eq_ok_iff, Shape.take_eq_ok_iff] at taken
  obtain ⟨_, policy, _, quantum, _, resources, _, maxTicks, _, quiet, _, logLevel, ⟨⟩⟩ := taken
  exact forall_keys.mpr ⟨policy.symm, quantum.symm, resources.symm, maxTicks.symm, quiet.symm,
    logLevel.symm⟩

/-! ### Ranges -/

/-- Values of the types of the settings, and in range. -/
structure Valid (value : Text → Json) : Prop where
  policy : ∃ name, value "policy" = .str name
  quantum : ∃ n, value "quantum" = .int n ∧ 1 ≤ n
  resources : ∃ n, value "num_resources" = .int n ∧ 1 ≤ n
  maxTicks : value "max_ticks" = .null ∨ ∃ n, value "max_ticks" = .int n ∧ 0 ≤ n
  quiet : ∃ b, value "quiet" = .bool b
  logLevel : ∃ name level, value "log_level" = .str name ∧
    Level.ofName name (Text.quoted name) = .ok level

theorem Valid.congr {value value' : Text → Json} (valid : Valid value)
    (same : ∀ key ∈ keys, value key = value' key) : Valid value' := by
  obtain ⟨policy, quantum, resources, maxTicks, quiet, logLevel⟩ := forall_keys.mp same
  exact ⟨policy ▸ valid.policy, quantum ▸ valid.quantum, resources ▸ valid.resources,
    maxTicks ▸ valid.maxTicks, quiet ▸ valid.quiet, logLevel ▸ valid.logLevel⟩

/-- A configuration passes as it is, and only if it is valid. -/
theorem valid_of_check (checked : c.check = .ok c') : c' = c ∧ Valid c.value := by
  by_cases idle : c.quantum ≤ 0
  · simp [check, idle] at checked
  by_cases bare : c.resources ≤ 0
  · simp [check, idle, bare] at checked
  cases beyond : c.maxTicks.filter (· < 0) with
  | some n => simp [check, idle, bare, beyond] at checked
  | none =>
      cases known : Level.ofName c.logLevel (Text.quoted c.logLevel) with
      | error e => simp [check, idle, bare, beyond, known] at checked
      | ok level =>
          simp only [check, idle, bare, beyond, known, if_false, Except.ok.injEq] at checked
          refine ⟨checked.symm, ⟨_, rfl⟩, ⟨_, rfl, by omega⟩, ⟨_, rfl, by omega⟩, ?_, ⟨_, rfl⟩,
            ⟨_, level, rfl, known⟩⟩
          show Shape.limit.write c.maxTicks = .null ∨
            ∃ n, Shape.limit.write c.maxTicks = .int n ∧ 0 ≤ n
          cases limit : c.maxTicks with
          | none => exact .inl rfl
          | some n => exact .inr ⟨n, rfl, by simpa [limit, Option.filter] using beyond⟩

/-! ### Building and overriding -/

/-- The settings that say something. -/
def nonNull (settings : Settings) : Settings := settings.filter fun s => !s.2.isNull

/-- The names that are no settings. -/
def strangers (settings : Settings) : List Text :=
  (settings.map (·.1)).filter fun key => !keys.contains key

/-- A configuration with settings in place of its own holds what they say, and it is valid. -/
theorem valid_of_replace (built : c.replace settings >>= check = .ok c') :
    (∀ key ∈ keys, c'.value key = overlay settings c.value key) ∧ Valid c'.value := by
  obtain ⟨d, replaced, checked⟩ := Except.bind_eq_ok_iff.mp built
  obtain ⟨rfl, valid⟩ := valid_of_check checked
  rw [replace_eq] at replaced
  exact ⟨value_of_ofValues replaced, valid⟩

theorem ofSettings_eq_ok_iff : ofSettings settings = .ok c ↔
    strangers settings = [] ∧ ({} : Config).replace settings >>= check = .ok c := by
  rw [← List.isEmpty_iff]
  show (if (strangers settings).isEmpty then ({} : Config).replace settings >>= check
    else .error _) = _ ↔ _
  split <;> simp_all

theorem change_eq (c : Config) (changes : Settings) :
    c.change changes =
      match (strangers changes).head? with
      | some key => .error (.unexpectedKey key)
      | none => c.replace changes >>= check := by
  have first : (strangers changes).head? =
      (changes.find? fun s => !keys.contains s.1).map (·.1) := by
    rw [strangers, List.head?_filter, List.find?_map]
    rfl
  rw [first, change]
  cases changes.find? fun s => !keys.contains s.1 <;> rfl

/-- Changes that are accepted name settings only. -/
theorem change_eq_ok (changed : c.change settings = .ok c') :
    strangers settings = [] ∧ c.replace settings >>= check = .ok c' := by
  rw [change_eq] at changed
  cases first : (strangers settings).head? with
  | some key => simp [first] at changed
  | none => exact ⟨List.head?_eq_none_iff.mp first, by simpa only [first] using changed⟩

theorem merge_eq (free : ∀ s ∈ settings, s.1 ≠ reserved) :
    c.merge settings = (c.change (nonNull settings)).mapError .invalid := by
  have unreserved : (settings.any fun s => s.1 = reserved) = false := by simpa using free
  rw [merge, unreserved]
  rfl

/-- Overrides that are accepted name settings only, where they say something. -/
theorem merge_eq_ok (merged : c.merge settings = .ok c') :
    (∀ s ∈ settings, s.1 ≠ reserved) ∧ strangers (nonNull settings) = [] ∧
      c.replace (nonNull settings) >>= check = .ok c' := by
  unfold merge at merged
  split at merged
  · cases merged
  · rename_i unreserved
    rw [Bool.not_eq_true] at unreserved
    exact ⟨by simpa using unreserved, change_eq_ok (Except.mapError_eq_ok_iff.mp merged)⟩

/-- The configurations that there are, with the value last given for each of their settings:
those built from settings, those of a file, and those overridden. -/
inductive Made : Config → (Text → Json) → Prop
  | built {settings : Settings} {c : Config} (known : strangers settings = [])
      (built : ({} : Config).replace settings >>= check = .ok c) :
      Made c (overlay settings ({} : Config).value)
  | read {settings : Settings} {c : Config} (read : ofSettings settings = .ok c) :
      Made c (overlay settings ({} : Config).value)
  | merged {c c' : Config} {value : Text → Json} {overrides : Settings} (made : Made c value)
      (merged : c.merge overrides = .ok c') : Made c' (overlay (nonNull overrides) value)

/-- A configuration holds what was last given, and that is valid. -/
theorem Made.holds {value : Text → Json} (made : Made c value) :
    (∀ key ∈ keys, c.value key = value key) ∧ Valid value := by
  suffices valid : (∀ key ∈ keys, c.value key = value key) ∧ Valid c.value from
    ⟨valid.1, valid.2.congr valid.1⟩
  induction made with
  | built known built => exact valid_of_replace built
  | read read => exact valid_of_replace (ofSettings_eq_ok_iff.mp read).2
  | @merged c c' value overrides made merged ih =>
      obtain ⟨held, valid⟩ := valid_of_replace (merge_eq_ok merged).2.2
      refine ⟨fun key known => ?_, valid⟩
      rw [held key known, overlay, overlay, ih.1 key known]

end Uniprocessor.Config
