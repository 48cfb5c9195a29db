import Mathlib.Data.List.Nodup
import Uniprocessor.Proofs.Config.Values

/-!
Overrides on top of each other.

Overriding twice is overriding once, with what the second overrides say laid over the first
ones (`Config.layered`): the configuration holds the same in the end (`replace_layered`), and
the checks read nothing else. One thing tells the two ways apart. A name that is no setting is
passed over as long as it says nothing, but it has its place among the names. If the second
overrides say something for it (`revived`), it is met in that place (`strangers_layered`), before
other names that are no settings (`overrides_told_apart`).
-/

namespace Uniprocessor.Config

open Table (find)

variable {c c' : Config} {a b settings : Settings} {key : Text}

/-! ### Overrides -/

/-- Overrides as a call takes them: no name comes twice, and none is reserved. -/
structure Keywords (settings : Settings) : Prop where
  once : (settings.map (·.1)).Nodup
  free : ∀ s ∈ settings, s.1 ≠ reserved

/-- The first overrides, with what the second ones say in place of what they say. -/
def layered (a b : Settings) : Settings := ((⟨a⟩ : Table Text Json).update ⟨nonNull b⟩).entries

/-- The names of the first overrides that are no settings, and for which the second ones say
something. -/
def revived (a b : Settings) : List Text :=
  (strangers a).filter fun key => (given? (nonNull b) key).isSome

theorem given?_eq_find (settings : Settings) (key : Text) :
    given? settings key = find key settings := by
  induction settings with
  | nil => rfl
  | cons s rest ih =>
      by_cases same : s.1 = key
      · simp [given?, find, same]
      · simpa [given?, find, same] using ih

theorem mem_nonNull_iff {s : Text × Json} : s ∈ nonNull settings ↔ s ∈ settings ∧ ¬ s.2.isNull := by
  simp [nonNull]

theorem once_nonNull (once : (settings.map (·.1)).Nodup) : ((nonNull settings).map (·.1)).Nodup :=
  once.sublist (List.filter_sublist.map _)

theorem find_nonNull_eq_some_iff (once : (settings.map (·.1)).Nodup) {j : Json} :
    find key (nonNull settings) = some j ↔ find key settings = some j ∧ ¬ j.isNull := by
  rw [Table.find_eq_some_iff (once_nonNull once), mem_nonNull_iff, Table.find_eq_some_iff once]

/-! ### One on top of the other -/

theorem find_layered (once : (b.map (·.1)).Nodup) :
    find key (layered a b) = (find key (nonNull b)).or (find key a) :=
  Table.get?_update (u := ⟨nonNull b⟩) (once_nonNull once)

theorem keys_layered (once : (b.map (·.1)).Nodup) : (layered a b).map (·.1) =
    a.map (·.1) ++ ((nonNull b).map (·.1)).filter fun key => !(find key a).isSome :=
  Table.keys_update (t := ⟨a⟩) (u := ⟨nonNull b⟩) (once_nonNull once)

theorem once_layered (onceA : (a.map (·.1)).Nodup) (onceB : (b.map (·.1)).Nodup) :
    ((layered a b).map (·.1)).Nodup := by
  rw [keys_layered onceB]
  refine onceA.append ((once_nonNull onceB).filter _) fun key mem mem' => ?_
  have known := (Table.find_isSome_iff key a).mpr mem
  rw [List.mem_filter, known] at mem'
  cases mem'.2

/-- Where the second overrides say nothing, the first ones are heard. -/
theorem find_nonNull_layered (onceA : (a.map (·.1)).Nodup) (onceB : (b.map (·.1)).Nodup) :
    find key (nonNull (layered a b)) = (find key (nonNull b)).or (find key (nonNull a)) := by
  refine Option.ext fun j => ?_
  rw [find_nonNull_eq_some_iff (once_layered onceA onceB), find_layered onceB]
  cases found : find key (nonNull b) with
  | none => exact (find_nonNull_eq_some_iff onceA).symm
  | some i =>
      have more := ((find_nonNull_eq_some_iff onceB).mp found).2
      constructor
      · exact And.left
      · rintro ⟨⟩
        exact ⟨rfl, more⟩

/-! ### Names that are no settings -/

theorem mem_strangers_iff :
    key ∈ strangers settings ↔ (given? settings key).isSome ∧ key ∉ keys := by
  rw [given?_eq_find, Table.find_isSome_iff, strangers, List.mem_filter]
  simp

/-- What says something goes by the names for which something is found. -/
theorem keys_nonNull (once : (settings.map (·.1)).Nodup) : (nonNull settings).map (·.1) =
    (settings.map (·.1)).filter fun key => (given? (nonNull settings) key).isSome := by
  rw [List.filter_map]
  refine congrArg (List.map _) (List.filter_congr fun s mem => ?_)
  rw [Function.comp_apply, given?_eq_find, Bool.eq_iff_iff, Table.find_isSome_iff]
  constructor
  · intro more
    exact List.mem_map_of_mem (mem_nonNull_iff.mpr ⟨mem, by simpa using more⟩)
  · intro found
    obtain ⟨s', mem', same⟩ := List.mem_map.mp found
    obtain ⟨mem', more⟩ := mem_nonNull_iff.mp mem'
    rw [← List.inj_on_of_nodup_map once mem' mem same]
    simpa using more

/-- The names that are no settings come in this order: first those that the first overrides
name already. -/
theorem strangers_layered (onceA : (a.map (·.1)).Nodup) (onceB : (b.map (·.1)).Nodup)
    (quiet : strangers (nonNull a) = []) :
    strangers (nonNull (layered a b)) =
      revived a b ++ (strangers (nonNull b)).filter fun key => !(find key a).isSome := by
  have given : ∀ key, (given? (nonNull (layered a b)) key).isSome =
      ((given? (nonNull b) key).isSome || (given? (nonNull a) key).isSome) := by
    intro key
    simp only [given?_eq_find, find_nonNull_layered onceA onceB, Option.isSome_or]
  have known : ∀ key, (given? (nonNull a) key).isSome → key ∈ keys := by
    intro key named
    by_contra stranger
    exact List.not_mem_nil (quiet ▸ mem_strangers_iff.mpr ⟨named, stranger⟩)
  rw [strangers, keys_nonNull (once_layered onceA onceB), keys_layered onceB, List.filter_append,
    List.filter_append]
  congr 1
  · simp only [revived, strangers, List.filter_filter]
    refine List.filter_congr fun key _ => ?_
    rw [given]
    cases named : (given? (nonNull a) key).isSome with
    | true => simp [known key named]
    | false => simp [Bool.and_comm]
  · simp only [strangers, List.filter_filter]
    refine List.filter_congr fun key mem => ?_
    have more : (given? (nonNull b) key).isSome := by
      rwa [given?_eq_find, Table.find_isSome_iff]
    simp [given, more, Bool.and_comm]

/-- Where nothing is revived, the names that are no settings are those of the second
overrides. -/
theorem strangers_layered_of_nil (onceA : (a.map (·.1)).Nodup) (onceB : (b.map (·.1)).Nodup)
    (quiet : strangers (nonNull a) = []) (nobody : revived a b = []) :
    strangers (nonNull (layered a b)) = strangers (nonNull b) := by
  rw [strangers_layered onceA onceB quiet, nobody, List.nil_append, List.filter_eq_self]
  intro key stranger
  by_contra known
  have named : (given? a key).isSome := by
    rw [given?_eq_find]
    simpa [Option.isSome_iff_ne_none] using known
  obtain ⟨more, unknown⟩ := mem_strangers_iff.mp stranger
  have mem : key ∈ revived a b :=
    List.mem_filter.mpr ⟨mem_strangers_iff.mpr ⟨named, unknown⟩, more⟩
  exact List.not_mem_nil (nobody ▸ mem)

/-! ### The law -/

theorem Keywords.layered (keywords : Keywords a) (keywords' : Keywords b) :
    Keywords (layered a b) where
  once := once_layered keywords.once keywords'.once
  free s mem := by
    have named : s.1 ∈ (Config.layered a b).map (·.1) := List.mem_map_of_mem mem
    rw [keys_layered keywords'.once, List.mem_append] at named
    rcases named with old | new
    · obtain ⟨s', mem', same⟩ := List.mem_map.mp old
      exact same ▸ keywords.free s' mem'
    · obtain ⟨s', mem', same⟩ := List.mem_map.mp (List.mem_filter.mp new).1
      exact same ▸ keywords'.free s' (mem_nonNull_iff.mp mem').1

/-- What a configuration with overrides becomes by more of them is what it becomes by both. -/
theorem replace_layered (onceA : (a.map (·.1)).Nodup) (onceB : (b.map (·.1)).Nodup)
    (built : c.replace (nonNull a) >>= check = .ok c') :
    c.replace (nonNull (layered a b)) = c'.replace (nonNull b) := by
  obtain ⟨held, -⟩ := valid_of_replace built
  rw [replace_eq, replace_eq]
  refine ofValues_congr fun key known => ?_
  rw [overlay, overlay, held key known, overlay]
  simp only [given?_eq_find, find_nonNull_layered onceA onceB]
  cases find key (nonNull b) <;> rfl

/-- Configurations stay valid: they hold what was last given, and that is of the right type and
in range. Overriding one by `a`, which it accepts, and then by `b` gives what overriding by both
at once gives, or the same complaint; unless `b` says something for names that are no settings
and for which `a` says nothing. Then both ways complain of a name: all at once of the first
of these in `a`, and one after the other of the first in `b` that is no setting. -/
theorem overrides_compose {c : Config} {value : Text → Json} (made : Made c value) :
    (∀ key ∈ keys, c.value key = value key) ∧ Valid value ∧
      ∀ a b c', Keywords a → Keywords b → c.merge a = .ok c' →
        (revived a b = [] → c'.merge b = c.merge (layered a b)) ∧
        ∀ key rest, revived a b = key :: rest →
          c.merge (layered a b) = .error (.invalid (.unexpectedKey key)) ∧
          ∃ first later, strangers (nonNull b) = first :: later ∧
            c'.merge b = .error (.invalid (.unexpectedKey first)) := by
  refine ⟨made.holds.1, made.holds.2, fun a b c' keywords keywords' merged => ?_⟩
  obtain ⟨-, quiet, built⟩ := merge_eq_ok merged
  rw [merge_eq keywords'.free, merge_eq (keywords.layered keywords').free, change_eq, change_eq]
  constructor
  · intro nobody
    rw [strangers_layered_of_nil keywords.once keywords'.once quiet nobody,
      replace_layered keywords.once keywords'.once built]
  · intro key rest revives
    rw [strangers_layered keywords.once keywords'.once quiet, revives]
    refine ⟨rfl, ?_⟩
    -- Whatever is revived is no setting and `b` says something for it, so `b` names some.
    cases strangers' : strangers (nonNull b) with
    | cons first later => exact ⟨first, later, rfl, rfl⟩
    | nil =>
        have mem : key ∈ revived a b := revives ▸ .head _
        obtain ⟨stranger, more⟩ := List.mem_filter.mp mem
        have known := (mem_strangers_iff.mp stranger).2
        have here : key ∈ strangers (nonNull b) := mem_strangers_iff.mpr ⟨more, known⟩
        exact absurd (strangers' ▸ here) List.not_mem_nil

/-- A quantum, with a slip that says nothing, and then a policy, with the same. -/
theorem overrides_compose_default :
    ∃ c', ({} : Config).merge [("quantum", .int 3), ("polcy", .null)] = .ok c' ∧
      c'.merge [("policy", .str "rr"), ("polcy", .null)] =
        ({} : Config).merge [("quantum", .int 3), ("polcy", .null), ("policy", .str "rr")] := by
  have made : Made ({} : Config) (overlay [] ({} : Config).value) := .built rfl rfl
  obtain ⟨-, -, compose⟩ := overrides_compose made
  have merged : ({} : Config).merge [("quantum", .int 3), ("polcy", .null)] =
    .ok { ({} : Config) with quantum := 3 } := by rfl
  refine ⟨_, merged, (compose _ _ _ ⟨by decide, by decide⟩ ⟨by decide, by decide⟩ merged).1 rfl⟩

/-- The second overrides say something for `zoo`, which the first ones leave open, and name `bar`
before it. -/
theorem overrides_told_apart :
    ({} : Config).merge [("zoo", .null)] = .ok {} ∧
      ({} : Config).merge [("bar", .int 1), ("zoo", .int 2)] =
        .error (.invalid (.unexpectedKey "bar")) ∧
      ({} : Config).merge (layered [("zoo", .null)] [("bar", .int 1), ("zoo", .int 2)]) =
        .error (.invalid (.unexpectedKey "zoo")) ∧
      (ConfigError.unexpectedKey "bar").message ≠ (ConfigError.unexpectedKey "zoo").message := by
  refine ⟨rfl, rfl, rfl, by decide⟩

end Uniprocessor.Config
