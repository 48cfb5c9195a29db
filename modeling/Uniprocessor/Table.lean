/-!
Finite maps that remember the order in which their keys came.

`put` replaces the value of a known key where it stands and appends a new key
at the end; `erase` forgets a key; `update` writes the entries of another table.
Look-up sees only the latest write (`get?_put`, `get?_erase`, `get?_update`), and
a table never lists a key twice (`nodup_keys_put`, `nodup_keys_erase`).
-/

namespace Uniprocessor

/-- Keys with values, in the order in which the keys came. -/
structure Table (κ ν : Type) where
  entries : List (κ × ν) := []
  deriving DecidableEq, Repr

namespace Table

variable {κ ν : Type} [DecidableEq κ]

instance : Inhabited (Table κ ν) := ⟨{}⟩

def keys (t : Table κ ν) : List κ := t.entries.map (·.1)

def values (t : Table κ ν) : List ν := t.entries.map (·.2)

def size (t : Table κ ν) : Nat := t.entries.length

def find (k : κ) : List (κ × ν) → Option ν
  | [] => none
  | (j, v) :: rest => if j = k then some v else find k rest

def get? (t : Table κ ν) (k : κ) : Option ν := find k t.entries

def contains (t : Table κ ν) (k : κ) : Bool := (t.get? k).isSome

def putEntry (k : κ) (v : ν) : List (κ × ν) → List (κ × ν)
  | [] => [(k, v)]
  | (j, w) :: rest => if j = k then (k, v) :: rest else (j, w) :: putEntry k v rest

/-- Gives `k` the value `v`; a known key keeps its place. -/
def put (t : Table κ ν) (k : κ) (v : ν) : Table κ ν := ⟨putEntry k v t.entries⟩

def erase (t : Table κ ν) (k : κ) : Table κ ν := ⟨t.entries.filter (fun e => e.1 ≠ k)⟩

/-- Writes every entry of `u`, in its order. -/
def update (t u : Table κ ν) : Table κ ν :=
  u.entries.foldl (fun t e => t.put e.1 e.2) t

/-- Later entries of the list win; a repeated key keeps its first place. -/
def ofList (l : List (κ × ν)) : Table κ ν := l.foldl (fun t e => t.put e.1 e.2) {}

/-! ### Look-up after a change -/

@[simp] theorem get?_empty (k : κ) : ({} : Table κ ν).get? k = none := rfl

theorem find_putEntry (k j : κ) (v : ν) (l : List (κ × ν)) :
    find j (putEntry k v l) = if k = j then some v else find j l := by
  induction l with
  | nil => simp [putEntry, find]
  | cons e rest ih =>
      obtain ⟨i, w⟩ := e
      by_cases same : i = k
      · subst same
        by_cases hit : i = j <;> simp [putEntry, find, hit]
      · by_cases hit : i = j
        · subst hit
          simp [putEntry, find, same, Ne.symm same]
        · simp [putEntry, find, same, hit, ih]

@[simp] theorem get?_put (t : Table κ ν) (k j : κ) (v : ν) :
    (t.put k v).get? j = if k = j then some v else t.get? j :=
  find_putEntry k j v t.entries

@[simp] theorem get?_erase (t : Table κ ν) (k j : κ) :
    (t.erase k).get? j = if k = j then none else t.get? j := by
  unfold erase get?
  induction t.entries with
  | nil => simp [find]
  | cons e rest ih =>
      obtain ⟨i, w⟩ := e
      by_cases same : i = k
      · subst same
        by_cases hit : i = j
        · simp_all
        · simp_all [find]
      · by_cases hit : i = j
        · subst hit
          simp [find, same, Ne.symm same]
        · simp_all [find]

theorem putEntry_putEntry (k : κ) (v w : ν) (l : List (κ × ν)) :
    putEntry k w (putEntry k v l) = putEntry k w l := by
  induction l with
  | nil => simp [putEntry]
  | cons e rest ih =>
      obtain ⟨i, u⟩ := e
      by_cases same : i = k <;> simp [putEntry, same, ih]

/-- Only the latest write of a key counts. -/
@[simp] theorem put_put (t : Table κ ν) (k : κ) (v w : ν) : (t.put k v).put k w = t.put k w :=
  congrArg Table.mk (putEntry_putEntry k v w t.entries)

/-! ### The keys -/

theorem find_isSome_iff (k : κ) (l : List (κ × ν)) : (find k l).isSome ↔ k ∈ l.map (·.1) := by
  induction l with
  | nil => simp [find]
  | cons e rest ih =>
      obtain ⟨i, w⟩ := e
      by_cases same : i = k
      · simp [find, same]
      · simp only [find, same, if_false, ih, List.map_cons, List.mem_cons, Ne.symm same, false_or]

/-- The keys are what look-up finds something for. -/
theorem mem_keys_iff {t : Table κ ν} {k : κ} : k ∈ t.keys ↔ (t.get? k).isSome :=
  (find_isSome_iff k t.entries).symm

theorem keys_putEntry (k : κ) (v : ν) (l : List (κ × ν)) :
    (putEntry k v l).map (·.1) =
      if k ∈ l.map (·.1) then l.map (·.1) else l.map (·.1) ++ [k] := by
  induction l with
  | nil => simp [putEntry]
  | cons e rest ih =>
      obtain ⟨i, w⟩ := e
      by_cases same : i = k
      · subst same
        simp [putEntry]
      · have apart : ¬ k = i := fun h => same h.symm
        simp only [putEntry, same, if_false, List.map_cons, ih, List.mem_cons, apart, false_or]
        split <;> rfl

theorem putEntry_of_new {k : κ} {l : List (κ × ν)} (new : k ∉ l.map (·.1)) (v : ν) :
    putEntry k v l = l ++ [(k, v)] := by
  induction l with
  | nil => rfl
  | cons e rest ih =>
      obtain ⟨i, w⟩ := e
      simp only [List.map_cons, List.mem_cons, not_or] at new
      simp [putEntry, Ne.symm new.1, ih new.2]

/-- A new entry comes last. -/
theorem entries_put_of_new {t : Table κ ν} {k : κ} (new : k ∉ t.keys) (v : ν) :
    (t.put k v).entries = t.entries ++ [(k, v)] :=
  putEntry_of_new new v

/-- A new key comes last; a known one moves no key. -/
theorem keys_put (t : Table κ ν) (k : κ) (v : ν) :
    (t.put k v).keys = if k ∈ t.keys then t.keys else t.keys ++ [k] :=
  keys_putEntry k v t.entries

/-- New entries are appended in their order. -/
theorem foldl_put_of_new {t : Table κ ν} {l : List (κ × ν)}
    (once : (t.keys ++ l.map (·.1)).Nodup) :
    l.foldl (fun t e => t.put e.1 e.2) t = ⟨t.entries ++ l⟩ := by
  induction l generalizing t with
  | nil => rw [List.foldl_nil, List.append_nil]
  | cons e rest ih =>
      have new : e.1 ∉ t.keys := fun known =>
        (List.nodup_append.mp once).2.2 _ known _ (.head _) rfl
      have later : ((t.put e.1 e.2).keys ++ rest.map (·.1)).Nodup := by
        rwa [keys_put, if_neg new, List.append_assoc]
      rw [List.foldl_cons, ih later, entries_put_of_new new, List.append_assoc]
      rfl

theorem ofList_entries {t : Table κ ν} (once : t.keys.Nodup) : ofList t.entries = t :=
  foldl_put_of_new (t := {}) once

theorem mem_keys_put {t : Table κ ν} {k j : κ} {v : ν} :
    j ∈ (t.put k v).keys ↔ j = k ∨ j ∈ t.keys := by
  rw [mem_keys_iff, mem_keys_iff, get?_put]
  by_cases same : k = j
  · simp [same]
  · simp [same, Ne.symm same]

theorem mem_keys_erase {t : Table κ ν} {k j : κ} :
    j ∈ (t.erase k).keys ↔ j ≠ k ∧ j ∈ t.keys := by
  rw [mem_keys_iff, mem_keys_iff, get?_erase]
  by_cases same : k = j
  · simp [same]
  · simp [same, Ne.symm same]

theorem length_keys_put_le (t : Table κ ν) (k : κ) (v : ν) :
    (t.put k v).keys.length ≤ t.keys.length + 1 := by
  rw [keys_put]
  split <;> simp

theorem length_keys_erase_lt {t : Table κ ν} {k : κ} (known : k ∈ t.keys) :
    (t.erase k).keys.length < t.keys.length := by
  obtain ⟨e, mem, key⟩ := List.mem_map.mp known
  simp only [keys, erase, List.length_map]
  exact List.length_filter_lt_length_iff_exists.mpr ⟨e, mem, by simpa using key⟩

theorem nodup_keys_put {t : Table κ ν} (h : t.keys.Nodup) (k : κ) (v : ν) :
    (t.put k v).keys.Nodup := by
  rw [keys_put]
  split
  · exact h
  · rename_i fresh
    exact List.nodup_append.mpr ⟨h, by simp, by
      intro a ha b hb
      rcases List.mem_singleton.mp hb with rfl
      exact fun same => fresh (same ▸ ha)⟩

theorem nodup_keys_erase {t : Table κ ν} (h : t.keys.Nodup) (k : κ) :
    (t.erase k).keys.Nodup :=
  List.Nodup.sublist (List.Sublist.map _ List.filter_sublist) h

theorem find_eq_some_iff {k : κ} {v : ν} {l : List (κ × ν)} (once : (l.map (·.1)).Nodup) :
    find k l = some v ↔ (k, v) ∈ l := by
  induction l with
  | nil => simp [find]
  | cons e rest ih =>
      obtain ⟨i, w⟩ := e
      obtain ⟨new, once⟩ := List.nodup_cons.mp once
      by_cases same : i = k
      · subst same
        have apart : (i, v) ∉ rest := fun mem => new (List.mem_map.mpr ⟨(i, v), mem, rfl⟩)
        simp [find, apart, eq_comm]
      · simp [find, same, Ne.symm same, ih once]

/-- Where no key comes twice, look-up finds every entry. -/
theorem get?_eq_some_iff {t : Table κ ν} {k : κ} {v : ν} (once : t.keys.Nodup) :
    t.get? k = some v ↔ (k, v) ∈ t.entries :=
  find_eq_some_iff once

/-! ### Updates -/

section

variable {t u : Table κ ν} {k : κ}

theorem update_cons (e : κ × ν) (l : List (κ × ν)) :
    t.update ⟨e :: l⟩ = (t.put e.1 e.2).update ⟨l⟩ := rfl

/-- What is written is found, and for other keys what was there. -/
theorem get?_update (once : u.keys.Nodup) : (t.update u).get? k = (u.get? k).or (t.get? k) := by
  obtain ⟨l⟩ := u
  induction l generalizing t with
  | nil => rfl
  | cons e rest ih =>
      obtain ⟨new, once⟩ := List.nodup_cons.mp once
      have first : (⟨e :: rest⟩ : Table κ ν).get? k =
          if e.1 = k then some e.2 else (⟨rest⟩ : Table κ ν).get? k := rfl
      rw [update_cons, ih once, get?_put, first]
      split
      next same =>
        have gone : (⟨rest⟩ : Table κ ν).get? k = none := by
          rw [← Option.not_isSome_iff_eq_none, ← mem_keys_iff, ← same]
          exact new
        rw [gone]
        rfl
      · rfl

/-- Known keys keep their places, and new ones come after them. -/
theorem keys_update (once : u.keys.Nodup) :
    (t.update u).keys = t.keys ++ u.keys.filter fun k => !t.contains k := by
  obtain ⟨l⟩ := u
  induction l generalizing t with
  | nil => exact (List.append_nil _).symm
  | cons e rest ih =>
      obtain ⟨new, once⟩ := List.nodup_cons.mp once
      have first : (⟨e :: rest⟩ : Table κ ν).keys = e.1 :: (⟨rest⟩ : Table κ ν).keys := rfl
      have later : ∀ k ∈ (⟨rest⟩ : Table κ ν).keys,
          (!(t.put e.1 e.2).contains k) = !t.contains k := by
        intro k mem
        have other : e.1 ≠ k := by
          rintro rfl
          exact new mem
        simp [contains, other]
      have known : e.1 ∈ t.keys ↔ t.contains e.1 := mem_keys_iff
      rw [update_cons, ih once, keys_put, first, List.filter_cons, List.filter_congr later]
      cases there : t.contains e.1 <;> simp [known, there]

end

/-! ### The values -/

theorem mem_values_of_find {k : κ} {v : ν} {l : List (κ × ν)} (found : find k l = some v) :
    v ∈ l.map (·.2) := by
  induction l with
  | nil => cases found
  | cons e rest ih =>
      obtain ⟨i, w⟩ := e
      by_cases same : i = k
      · simp only [find, same, if_true, Option.some.injEq] at found
        exact found ▸ .head _
      · simp only [find, same, if_false] at found
        exact .tail _ (ih found)

theorem mem_values_of_get? {t : Table κ ν} {k : κ} {v : ν} (found : t.get? k = some v) :
    v ∈ t.values :=
  mem_values_of_find found

theorem mem_putEntry {k : κ} {v : ν} {e : κ × ν} {l : List (κ × ν)} (mem : e ∈ putEntry k v l) :
    e = (k, v) ∨ e ∈ l := by
  induction l with
  | nil => exact .inl (by simpa [putEntry] using mem)
  | cons first rest ih =>
      obtain ⟨i, u⟩ := first
      by_cases same : i = k
      · simp only [putEntry, same, if_true, List.mem_cons] at mem ⊢
        exact mem.imp_right .inr
      · simp only [putEntry, same, if_false, List.mem_cons] at mem ⊢
        rcases mem with rfl | mem
        · exact .inr (.inl rfl)
        · exact (ih mem).imp_right .inr

/-- The entries after a write are the new one and old ones. -/
theorem mem_entries_put {t : Table κ ν} {k : κ} {v : ν} {e : κ × ν}
    (mem : e ∈ (t.put k v).entries) : e = (k, v) ∨ e ∈ t.entries :=
  mem_putEntry mem

theorem mem_values_putEntry {k : κ} {v w : ν} {l : List (κ × ν)}
    (mem : w ∈ (putEntry k v l).map (·.2)) : w = v ∨ w ∈ l.map (·.2) := by
  obtain ⟨e, here, rfl⟩ := List.mem_map.mp mem
  rcases mem_putEntry here with rfl | old
  · exact .inl rfl
  · exact .inr (List.mem_map.mpr ⟨e, old, rfl⟩)

/-- The values after a write are the new one and old ones. -/
theorem mem_values_put {t : Table κ ν} {k : κ} {v w : ν} (mem : w ∈ (t.put k v).values) :
    w = v ∨ w ∈ t.values :=
  mem_values_putEntry mem

theorem mem_values_putEntry_of_mem {k : κ} {v w : ν} {l : List (κ × ν)}
    (mem : w ∈ l.map (·.2)) : w ∈ (putEntry k v l).map (·.2) ∨ find k l = some w := by
  induction l with
  | nil => cases mem
  | cons e rest ih =>
      obtain ⟨i, u⟩ := e
      simp only [List.map_cons, List.mem_cons] at mem
      by_cases same : i = k
      · simp only [putEntry, find, same, if_true, List.map_cons, List.mem_cons]
        rcases mem with rfl | mem
        · exact .inr rfl
        · exact .inl (.inr mem)
      · simp only [putEntry, find, same, if_false, List.map_cons, List.mem_cons]
        rcases mem with rfl | mem
        · exact .inl (.inl rfl)
        · exact (ih mem).imp_left .inr

/-- A write loses no value but the one it replaces. -/
theorem mem_values_put_of_mem {t : Table κ ν} {w : ν} (mem : w ∈ t.values) (k : κ) (v : ν) :
    w ∈ (t.put k v).values ∨ t.get? k = some w :=
  mem_values_putEntry_of_mem mem

theorem value_mem_put (t : Table κ ν) (k : κ) (v : ν) : v ∈ (t.put k v).values :=
  mem_values_of_get? (by rw [get?_put, if_pos rfl])

end Table

end Uniprocessor
