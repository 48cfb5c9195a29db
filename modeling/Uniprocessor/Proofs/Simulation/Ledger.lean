import Uniprocessor.Proofs.Kernel.Views
import Uniprocessor.Proofs.Workload.Validity

/-!
The books of one process.

A simulation counts the requests of a process that were granted and keeps, for
each resource that the process holds, the ticks of work left to hold it. The
books agree with the requests (`Ledger`): a resource is held exactly while a
granted request for it lasts, and the count is what is left of that request.
The books stay so when a request is granted, when a tick of work is done, and
when the counts are brought up to date one by one after it. `todo` lists the
resources whose counts are still those of the tick before.

Two granted requests for one resource never last at the same time, since the
requests of a valid process keep apart, so the table needs one entry for each
resource only.
-/

namespace Uniprocessor

/-- A process that comes from a valid declaration. -/
structure Process.Valid (p : Process) : Prop where
  lifespan : 1 ≤ p.lifespan
  fits : ∀ q ∈ p.requests, q.Fits p.lifespan
  sorted : p.requests.Pairwise (fun a b => a.atMost b)
  apart : p.requests.Pairwise Request.Apart

theorem Process.Valid.congr {p p' : Process} (valid : p.Valid)
    (same : p'.declared = p.declared) : p'.Valid := by
  have lifespan : p'.lifespan = p.lifespan := congrArg (·.lifespan) same
  have requests : p'.requests = p.requests := congrArg (·.requests) same
  constructor
  · rw [lifespan]
    exact valid.lifespan
  · rw [lifespan, requests]
    exact valid.fits
  · rw [requests]
    exact valid.sorted
  · rw [requests]
    exact valid.apart

/-- A valid declaration can be built, and its requests are already in order. -/
theorem ProcessSpec.Valid.build {spec : ProcessSpec} (valid : spec.Valid) :
    ∃ p, spec.build = .ok p ∧ p.Valid ∧ p.pid = spec.pid ∧ p.lifespan = spec.lifespan.toNat ∧
      p.requests = spec.requests ∧ p.base = spec.priority ∧ p.state = .ready ∧ p.age = 0 ∧
      p.boosts = {} ∧ p.queue = none := by
  have positive := valid.lifespan
  have order := Request.sort_of_sorted valid.sorted
  refine ⟨_, if_neg (by omega), ?_, rfl, rfl, order, rfl, rfl, rfl, rfl, rfl⟩
  constructor
  · show 1 ≤ spec.lifespan.toNat
    omega
  · show ∀ q ∈ Request.sort spec.requests, q.Fits (spec.lifespan.toNat : Int)
    rw [order, Int.toNat_of_nonneg (by omega)]
    exact valid.fits
  · show (Request.sort spec.requests).Pairwise (fun a b => a.atMost b)
    exact Request.sorted_sort _
  · show (Request.sort spec.requests).Pairwise Request.Apart
    rw [order]
    exact valid.apart

theorem ProcessSpec.boosts_of_build {spec : ProcessSpec} {p : Process}
    (built : spec.build = .ok p) : p.boosts = {} := by
  unfold ProcessSpec.build at built
  split at built
  · cases built
  · cases built
    rfl

/-- One more request is taken: the first of the rest. -/
theorem Request.take_add_one {requests later : List Request} {n : Nat} {q : Request}
    (next : requests.drop n = q :: later) : requests.take (n + 1) = requests.take n ++ [q] := by
  have here : requests[n]? = some q := by
    rw [← List.head?_drop, next]
    rfl
  rw [List.take_add_one, here]
  rfl

/-- What the count of a resource lags behind by: a tick, until it is its turn. -/
def lag (todo : List Int) (r : Int) : Int := if r ∈ todo then 1 else 0

/-- The held resources are those of the granted requests that last, with what
is left of each. -/
structure Ledger (p : Process) (granted : Nat) (held : Table Int Int) (todo : List Int) : Prop where
  nodup : held.keys.Nodup
  entry : ∀ r left, held.get? r = some left ↔
    ∃ q ∈ p.requests.take granted, q.resource = r ∧
      left = q.due + q.hold - p.age + lag todo r ∧ 0 < left

namespace Ledger

variable {p : Process} {granted : Nat} {held : Table Int Int} {todo : List Int} {r left : Int}

/-- A process that has just arrived holds nothing. -/
theorem fresh (p : Process) : Ledger p 0 {} [] := by
  constructor
  · exact List.nodup_nil
  · intro r left
    simp

theorem congr {p' : Process} (ledger : Ledger p granted held todo) (age : p'.age = p.age)
    (requests : p'.requests = p.requests) : Ledger p' granted held todo := by
  constructor
  · exact ledger.nodup
  · rw [age, requests]
    exact ledger.entry

/-- What is asked for is not held already. -/
theorem not_held {q : Request} {later : List Request} (ledger : Ledger p granted held [])
    (valid : p.Valid) (next : p.requests.drop granted = q :: later) (due : q.due = p.age) :
    held.get? q.resource = none := by
  apply Option.eq_none_iff_forall_ne_some.mpr
  intro left found
  obtain ⟨i, mem, same, count, positive⟩ := (ledger.entry _ _).mp found
  have apart := valid.apart
  rw [← List.take_append_drop granted p.requests, next, List.pairwise_append] at apart
  have ended := apart.2.2 i mem q (.head _) same
  simp only [lag, List.not_mem_nil, if_false] at count
  omega

/-- A granted request opens an entry. -/
theorem grant {q : Request} {later : List Request} (ledger : Ledger p granted held [])
    (valid : p.Valid) (next : p.requests.drop granted = q :: later) (due : q.due = p.age) :
    Ledger p (granted + 1) (held.put q.resource q.hold) [] := by
  have fresh := ledger.not_held valid next due
  have taken := Request.take_add_one next
  have hold : 1 ≤ q.hold := (valid.fits q (by
    rw [← List.take_append_drop granted p.requests, next]
    exact List.mem_append_right _ (.head _))).hold
  constructor
  · exact Table.nodup_keys_put ledger.nodup _ _
  · intro r left
    rw [Table.get?_put, taken]
    -- Nothing was held of the resource, so its entry is the new one. The others are as they were.
    by_cases same : q.resource = r
    · subst same
      rw [if_pos rfl]
      constructor
      · rintro ⟨⟩
        refine ⟨q, List.mem_append_right _ (.head _), rfl, ?_, hold⟩
        simp only [lag, List.not_mem_nil, if_false]
        omega
      · rintro ⟨i, mem, resource, count, positive⟩
        rcases List.mem_append.mp mem with old | new
        · have held := (ledger.entry _ _).mpr ⟨i, old, resource, count, positive⟩
          rw [fresh] at held
          cases held
        · rw [List.mem_singleton.mp new] at count
          simp only [lag, List.not_mem_nil, if_false] at count
          congr 1
          omega
    · rw [if_neg same, ledger.entry]
      constructor
      · rintro ⟨i, mem, rest⟩
        exact ⟨i, List.mem_append_left _ mem, rest⟩
      · rintro ⟨i, mem, resource, rest⟩
        rcases List.mem_append.mp mem with old | new
        · exact ⟨i, old, resource, rest⟩
        · rw [List.mem_singleton.mp new] at resource
          exact absurd resource same

/-- A tick of work makes every count late. -/
theorem work (ledger : Ledger p granted held []) : Ledger p.older granted held held.keys := by
  constructor
  · exact ledger.nodup
  · intro r left
    simp only [Process.older_fields, ledger.entry, lag, List.not_mem_nil, if_false]
    by_cases here : r ∈ held.keys
    · simp only [here, if_true]
      constructor <;>
        · rintro ⟨q, mem, same, count, positive⟩
          exact ⟨q, mem, same, by omega, positive⟩
    · simp only [here, if_false]
      constructor <;> rintro ⟨q, mem, same, count, positive⟩ <;> refine absurd ?_ here
      · rw [Table.mem_keys_iff, (ledger.entry r left).mpr ⟨q, mem, same, ?_, positive⟩]
        · rfl
        · simpa [lag] using count
      · rw [Table.mem_keys_iff,
          (ledger.entry r (left + 1)).mpr ⟨q, mem, same, ?_, by omega⟩]
        · rfl
        · simp only [lag, List.not_mem_nil, if_false]
          omega

/-- What is due to be counted down is held. -/
theorem held_of_todo (ledger : Ledger p granted held (r :: todo)) (mem : r ∈ held.keys) :
    ∃ left, held.get? r = some left ∧ 1 ≤ left := by
  obtain ⟨left, found⟩ := Option.isSome_iff_exists.mp (Table.mem_keys_iff.mp mem)
  obtain ⟨q, _, _, _, positive⟩ := (ledger.entry r left).mp found
  exact ⟨left, found, positive⟩

/-- The entries other than that of `r` do not depend on whether `r` is late. -/
theorem entry_of_ne (ledger : Ledger p granted held (r :: todo)) {i : Int} (other : r ≠ i)
    (left : Int) : held.get? i = some left ↔
      ∃ q ∈ p.requests.take granted, q.resource = i ∧
        left = q.due + q.hold - p.age + lag todo i ∧ 0 < left := by
  rw [ledger.entry]
  simp [lag, Ne.symm other]

/-- The count of a resource that is kept is brought up to date. -/
theorem elapse (ledger : Ledger p granted held (r :: todo)) (apart : r ∉ todo)
    (found : held.get? r = some left) (more : left - 1 ≠ 0) :
    Ledger p granted (held.put r (left - 1)) todo := by
  constructor
  · exact Table.nodup_keys_put ledger.nodup _ _
  · intro i count
    rw [Table.get?_put]
    -- The entry was one behind as long as the resource was to be counted.
    by_cases same : r = i
    · subst same
      rw [if_pos rfl]
      constructor
      · rintro ⟨⟩
        obtain ⟨q, mem, resource, was, positive⟩ := (ledger.entry r left).mp found
        simp only [lag, List.mem_cons, true_or, if_true] at was
        refine ⟨q, mem, resource, ?_, by omega⟩
        simp only [lag, apart, if_false]
        omega
      · rintro ⟨q, mem, resource, is, positive⟩
        simp only [lag, apart, if_false] at is
        have was := (ledger.entry r (count + 1)).mpr ⟨q, mem, resource, ?_, by omega⟩
        · rw [found] at was
          cases was
          congr 1
          omega
        · simp only [lag, List.mem_cons, true_or, if_true]
          omega
    · rw [if_neg same]
      exact ledger.entry_of_ne same count

/-- A resource is given back when nothing is left of its request. -/
theorem giveBack (ledger : Ledger p granted held (r :: todo)) (apart : r ∉ todo)
    (found : held.get? r = some left) (last : left - 1 = 0) :
    Ledger p granted ((held.put r (left - 1)).erase r) todo := by
  constructor
  · exact Table.nodup_keys_erase (Table.nodup_keys_put ledger.nodup _ _) _
  · intro i count
    rw [Table.get?_erase]
    by_cases same : r = i
    · subst same
      rw [if_pos rfl]
      refine ⟨nofun, ?_⟩
      rintro ⟨q, mem, resource, is, positive⟩
      simp only [lag, apart, if_false] at is
      have was := (ledger.entry r (count + 1)).mpr ⟨q, mem, resource, ?_, by omega⟩
      · rw [found] at was
        cases was
        omega
      · simp only [lag, List.mem_cons, true_or, if_true]
        omega
    · rw [if_neg same, Table.get?_put, if_neg same]
      exact ledger.entry_of_ne same count

/-- Nothing is held past the end of the work. -/
theorem empty_of_finished (ledger : Ledger p granted held []) (valid : p.Valid)
    (finished : p.lifespan ≤ p.age) : held.keys = [] := by
  apply List.eq_nil_iff_forall_not_mem.mpr
  intro r mem
  obtain ⟨left, found⟩ := Option.isSome_iff_exists.mp (Table.mem_keys_iff.mp mem)
  obtain ⟨q, asked, _, count, positive⟩ := (ledger.entry r left).mp found
  have within := (valid.fits q (List.mem_of_mem_take asked)).within
  simp only [lag, List.not_mem_nil, if_false] at count
  omega

end Ledger

end Uniprocessor
