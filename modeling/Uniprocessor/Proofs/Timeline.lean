import Mathlib.Algebra.BigOperators.Group.List.Basic
import Mathlib.Algebra.GroupWithZero.Nat
import Mathlib.Data.Finset.Card
import Uniprocessor.Proofs.Simulation.Life
import Uniprocessor.Report

/-!
What a timeline says.

The lines of a timeline that is numbered by tick tell how a process has lived
(`Recorded`): it has worked as often as there is a line of its work, and if it
has left there is a line of that, which is its last. A line about somebody else
says nothing new about it (`Recorded.other`), and a line of its own carries its
life on (`Recorded.own`).

Between two ticks a process rests where there is no line of its work, and its
lines of work are all that is missing there (`restTicks_add_countP`). Every line of work
is somebody's (`countP_busy`). The lines that are about somebody else than the
line before are the turns of the timeline (`turns`).
-/

namespace Uniprocessor

namespace TickRecord

/-- The line notes a tick of work. -/
def busy (line : TickRecord) : Bool := line.event == .run || line.event == .exit

/-- The line notes a tick of work of the process. -/
def worked (line : TickRecord) (pid : Int) : Bool := line.pid == some pid && line.busy

/-- The line notes that the process left. -/
def left (line : TickRecord) (pid : Int) : Bool := line.pid == some pid && line.event == .exit

variable {line : TickRecord} {pid : Int}

theorem worked_of_other (other : line.pid ≠ some pid) : line.worked pid = false := by
  simp [worked, other]

theorem left_of_other (other : line.pid ≠ some pid) : line.left pid = false := by
  simp [left, other]

theorem pid_of_left (left : line.left pid = true) : line.pid = some pid := by
  simp only [TickRecord.left, Bool.and_eq_true, beq_iff_eq] at left
  exact left.1

theorem pid_of_worked (worked : line.worked pid = true) : line.pid = some pid := by
  simp only [TickRecord.worked, Bool.and_eq_true, beq_iff_eq] at worked
  exact worked.1

end TickRecord

variable {lines : List TickRecord} {line : TickRecord} {pid : Int} {life : Life}

/-- The lines are numbered by tick. -/
def Numbered (lines : List TickRecord) : Prop :=
  ∀ (i : Nat) (line : TickRecord), lines[i]? = some line → line.tick = i

namespace Numbered

theorem append (numbered : Numbered lines) (tick : line.tick = lines.length) :
    Numbered (lines ++ [line]) := by
  intro i other found
  by_cases old : i < lines.length
  · rw [List.getElem?_append_left old] at found
    exact numbered i other found
  · rw [List.getElem?_append_right (Nat.not_lt.mp old)] at found
    have last : i - lines.length = 0 := by
      have bound := (List.getElem?_eq_some_iff.mp found).1
      simpa using bound
    rw [last] at found
    have same : line = other := by simpa using found
    rw [← same, tick]
    omega

/-- Earlier lines have lesser numbers. -/
theorem lt_length (numbered : Numbered lines) (mem : line ∈ lines) :
    line.tick < lines.length := by
  obtain ⟨i, found⟩ := List.mem_iff_getElem?.mp mem
  have bound := (List.getElem?_eq_some_iff.mp found).1
  rw [numbered i line found]
  omega

theorem ticks (numbered : Numbered lines) :
    lines.map (·.tick) = (List.range lines.length).map fun i : Nat => (i : Int) := by
  apply List.ext_getElem?
  intro i
  rw [List.getElem?_map, List.getElem?_map]
  cases found : lines[i]? with
  | none =>
      have short : lines.length ≤ i := List.getElem?_eq_none_iff.mp found
      simp [short]
  | some line =>
      have bound := (List.getElem?_eq_some_iff.mp found).1
      simp [numbered i line found, bound]

/-- No two lines have the same number. -/
theorem nodup (numbered : Numbered lines) : (lines.map (·.tick)).Nodup := by
  rw [numbered.ticks]
  exact List.Nodup.map (fun _ _ => Int.ofNat.inj) List.nodup_range

end Numbered

/-! ### The life of a process -/

/-- The lines tell how the process with the number has lived. -/
structure Recorded (lines : List TickRecord) (pid : Int) (life : Life) : Prop where
  work : lines.countP (·.worked pid) = life.age
  left : (∃ line ∈ lines, line.left pid = true) ↔ life.gone = true
  last : ∀ line ∈ lines, line.left pid = true →
    (∃ n, life.exitTick = some n ∧ line.tick + 1 = n) ∧
      ∀ other ∈ lines, other.pid = some pid → other.tick ≤ line.tick
  present : life.gone = false → life.exitTick = none

namespace Recorded

/-- Of whom no line tells, nothing has been done. -/
theorem blank (nothing : ∀ line ∈ lines, line.pid ≠ some pid) :
    Recorded lines pid ⟨0, false, none⟩ := by
  have never : ∀ line ∈ lines, line.left pid = false :=
    fun line mem => TickRecord.left_of_other (nothing line mem)
  constructor
  · apply List.countP_eq_zero.mpr
    intro line mem
    simp [TickRecord.worked_of_other (nothing line mem)]
  · simpa using never
  · intro line mem left
    rw [never line mem] at left
    cases left
  · exact fun _ => rfl

/-- A line about somebody else says nothing new. -/
theorem other (recorded : Recorded lines pid life) (other : line.pid ≠ some pid) :
    Recorded (lines ++ [line]) pid life := by
  have worked := TickRecord.worked_of_other other
  have left := TickRecord.left_of_other other
  constructor
  · simpa [List.countP_append, worked] using recorded.work
  · rw [← recorded.left]
    simp [left, or_and_right, exists_or]
  · intro i mem leaves
    have old : i ∈ lines := by
      rcases List.mem_append.mp mem with old | new
      · exact old
      · rw [List.mem_singleton.mp new, left] at leaves
        cases leaves
    refine ⟨(recorded.last i old leaves).1, ?_⟩
    intro j mem' own
    rcases List.mem_append.mp mem' with old' | new
    · exact (recorded.last i old leaves).2 j old' own
    · exact absurd (List.mem_singleton.mp new ▸ own) other
  · exact recorded.present

/-- A line of its own carries on the life of whoever has not left. -/
theorem own {n : Nat} (recorded : Recorded lines pid life) (here : life.gone = false)
    (own : line.pid = some pid) (tick : line.tick + 1 = n)
    (latest : ∀ i ∈ lines, i.tick ≤ line.tick) :
    Recorded (lines ++ [line]) pid ⟨life.age + line.busy.toNat, line.event == .exit,
      if line.event == .exit then some n else life.exitTick⟩ := by
  -- It is still there, so no line so far says that it has left.
  have never : ∀ i ∈ lines, i.left pid = false := by
    intro i mem
    apply Bool.eq_false_iff.mpr
    intro leaves
    have gone := recorded.left.mp ⟨i, mem, leaves⟩
    rw [here] at gone
    cases gone
  have leaves : line.left pid = (line.event == .exit) := by simp [TickRecord.left, own]
  constructor
  · rw [List.countP_append, recorded.work]
    cases works : line.busy <;> simp [TickRecord.worked, own, works]
  · constructor
    · rintro ⟨i, mem, left⟩
      rcases List.mem_append.mp mem with old | new
      · rw [never i old] at left
        cases left
      · rw [List.mem_singleton.mp new, leaves] at left
        exact left
    · intro gone
      exact ⟨line, List.mem_append_right _ (.head _), leaves.trans gone⟩
  · intro i mem left
    rcases List.mem_append.mp mem with old | new
    · rw [never i old] at left
      cases left
    · have is := List.mem_singleton.mp new
      subst is
      refine ⟨⟨n, if_pos (leaves.symm.trans left), tick⟩, ?_⟩
      intro j mem' _
      rcases List.mem_append.mp mem' with old | new'
      · exact latest j old
      · rw [List.mem_singleton.mp new']
  · intro stays
    simp only at stays
    simp [stays, recorded.present here]

/-- Whoever has left has a line of that. -/
theorem line_of_exitTick {n : Nat} (recorded : Recorded lines pid life)
    (is : life.exitTick = some n) :
    ∃ line ∈ lines, line.left pid = true ∧ line.tick + 1 = n ∧
      ∀ other ∈ lines, other.pid = some pid → other.tick < n := by
  have gone : life.gone = true := by
    apply Bool.not_eq_false _ |>.mp
    intro here
    rw [recorded.present here] at is
    cases is
  obtain ⟨line, mem, left⟩ := recorded.left.mpr gone
  obtain ⟨⟨i, exitTick, tick⟩, last⟩ := recorded.last line mem left
  rw [is] at exitTick
  cases exitTick
  refine ⟨line, mem, left, tick, ?_⟩
  intro other mem' own
  have earlier := last other mem' own
  omega

end Recorded

/-! ### Resting -/

/-- The ticks from the first to before the last. -/
def ticksBetween (first last : Int) : List Int :=
  (List.range (last - first).toNat).map fun i : Nat => first + i

/-- There is a line of work of the process at the tick. -/
def worksAt (lines : List TickRecord) (pid tick : Int) : Bool :=
  lines.any fun line => line.tick == tick && line.worked pid

/-- How many ticks in between are no work of the process. -/
def restTicks (lines : List TickRecord) (pid first last : Int) : Nat :=
  (ticksBetween first last).countP fun tick => !worksAt lines pid tick

variable {first last tick : Int}

theorem mem_ticksBetween : tick ∈ ticksBetween first last ↔ first ≤ tick ∧ tick < last := by
  simp only [ticksBetween, List.mem_map, List.mem_range]
  constructor
  · rintro ⟨i, bound, rfl⟩
    omega
  · rintro ⟨after, before⟩
    exact ⟨(tick - first).toNat, by omega, by omega⟩

theorem nodup_ticksBetween : (ticksBetween first last).Nodup := by
  refine List.Nodup.map ?_ List.nodup_range
  intro i j same
  simp only at same
  omega

theorem worksAt_iff : worksAt lines pid tick = true ↔
    ∃ line ∈ lines, line.tick = tick ∧ line.worked pid = true := by
  simp [worksAt]

/-- As many ticks are work of the process as there are lines of it. -/
theorem countP_worksAt (numbered : Numbered lines)
    (within : ∀ line ∈ lines, line.worked pid = true → first ≤ line.tick ∧ line.tick < last) :
    (ticksBetween first last).countP (worksAt lines pid) = lines.countP (·.worked pid) := by
  have apart : ((lines.filter (·.worked pid)).map (·.tick)).Nodup :=
    numbered.nodup.sublist (List.filter_sublist.map _)
  have alike : ((ticksBetween first last).filter (worksAt lines pid)).Perm
      ((lines.filter (·.worked pid)).map (·.tick)) := by
    refine (List.perm_ext_iff_of_nodup (nodup_ticksBetween.filter _) apart).mpr ?_
    intro tick
    simp only [List.mem_filter, List.mem_map, mem_ticksBetween, worksAt_iff]
    constructor
    · rintro ⟨_, line, mem, rfl, worked⟩
      exact ⟨line, ⟨mem, worked⟩, rfl⟩
    · rintro ⟨line, ⟨mem, worked⟩, rfl⟩
      exact ⟨within line mem worked, line, mem, rfl, worked⟩
  rw [List.countP_eq_length_filter, alike.length_eq, List.length_map,
    List.countP_eq_length_filter]

/-- The ticks of rest and the lines of work are all the ticks in between. -/
theorem restTicks_add_countP (numbered : Numbered lines)
    (within : ∀ line ∈ lines, line.worked pid = true → first ≤ line.tick ∧ line.tick < last) :
    restTicks lines pid first last + lines.countP (·.worked pid) = (last - first).toNat := by
  have length : (ticksBetween first last).length = (last - first).toNat := by simp [ticksBetween]
  have whole := (ticksBetween first last).length_eq_countP_add_countP (worksAt lines pid)
  rw [countP_worksAt numbered within, length] at whole
  rw [whole, Nat.add_comm, restTicks]
  simp

/-! ### Everybody's work -/

/-- Every line is idle, blocked, or one of work. -/
theorem length_eq_countP (lines : List TickRecord) :
    lines.length = lines.countP (·.event == .idle) + lines.countP (·.event == .blocked) +
      lines.countP (·.busy) := by
  induction lines with
  | nil => rfl
  | cons line lines ih =>
      obtain ⟨tick, pid, event⟩ := line
      cases event <;> simp [TickRecord.busy] at ih ⊢ <;> omega

theorem sum_map_indicator {α : Type} (p : α → Bool) (l : List α) :
    (l.map fun a => if p a = true then 1 else 0).sum = l.countP p := by
  induction l with
  | nil => rfl
  | cons a l ih => rw [List.map_cons, List.sum_cons, ih, List.countP_cons, Nat.add_comm]

/-- A line of work is that of one process. -/
theorem countP_worked {pids : List Int} (apart : pids.Nodup)
    (known : line.busy = true → ∃ pid ∈ pids, line.pid = some pid) :
    pids.countP (fun pid => line.worked pid) = if line.busy = true then 1 else 0 := by
  cases works : line.busy with
  | false => simp [TickRecord.worked, works]
  | true =>
      obtain ⟨pid, mem, own⟩ := known works
      have alone : pids.countP (fun i => line.worked i) = pids.count pid :=
        List.countP_congr fun i _ => by simpa [TickRecord.worked, works, own] using eq_comm
      rw [alone, List.count_eq_one_of_mem apart mem, if_pos rfl]

/-- Every line of work is that of one process. -/
theorem countP_busy {pids : List Int} (apart : pids.Nodup)
    (known : ∀ line ∈ lines, line.busy = true → ∃ pid ∈ pids, line.pid = some pid) :
    lines.countP (·.busy) = (pids.map fun pid => lines.countP (·.worked pid)).sum := by
  induction lines with
  | nil => simp
  | cons line lines ih =>
      have rest := ih fun i mem => known i (List.mem_cons_of_mem _ mem)
      have first := countP_worked apart (known line (.head _))
      rw [← sum_map_indicator] at first
      simp only [List.countP_cons, List.sum_map_add, rest, first]

/-! ### Turns -/

/-- Whom the line is about. -/
def pidAt (lines : List TickRecord) (i : Nat) : Option Int := lines[i]?.bind (·.pid)

/-- The line is about somebody whom the line before is not about. -/
def Turns (lines : List TickRecord) (i : Nat) : Prop :=
  pidAt lines i ≠ none ∧ (i = 0 ∨ pidAt lines i ≠ pidAt lines (i - 1))

instance (lines : List TickRecord) : DecidablePred (Turns lines) := fun _ =>
  inferInstanceAs (Decidable (_ ∧ _))

/-- How many lines are about somebody whom the line before is not about. -/
def turns (lines : List TickRecord) : Nat := ((Finset.range lines.length).filter (Turns lines)).card

/-- Whom the last line is about. -/
def latest (lines : List TickRecord) : Option Int := lines.getLast?.bind (·.pid)

theorem pidAt_append_of_lt {i : Nat} (old : i < lines.length) :
    pidAt (lines ++ [line]) i = pidAt lines i := by
  rw [pidAt, List.getElem?_append_left old, pidAt]

theorem pidAt_length (lines : List TickRecord) (line : TickRecord) :
    pidAt (lines ++ [line]) lines.length = line.pid := by
  simp [pidAt]

/-- The last line is a turn if it is about somebody whom the one before is not about. -/
theorem turns_length_iff (lines : List TickRecord) (line : TickRecord) :
    Turns (lines ++ [line]) lines.length ↔ ¬ (line.pid = none ∨ line.pid = latest lines) := by
  unfold Turns
  rw [pidAt_length]
  cases lines with
  | nil => simp [latest]
  | cons first rest =>
      have before : pidAt (first :: rest ++ [line]) ((first :: rest).length - 1) =
          latest (first :: rest) := by
        rw [pidAt_append_of_lt (by simp), pidAt, latest, List.getLast?_eq_getElem?]
      rw [before]
      simp

/-- One more line adds a turn if it is one. -/
theorem turns_append (lines : List TickRecord) (line : TickRecord) :
    turns (lines ++ [line]) =
      turns lines + if line.pid = none ∨ line.pid = latest lines then 0 else 1 := by
  have earlier : (Finset.range lines.length).filter (Turns (lines ++ [line])) =
      (Finset.range lines.length).filter (Turns lines) := by
    apply Finset.filter_congr
    intro i mem
    have old := Finset.mem_range.mp mem
    rw [Turns, Turns, pidAt_append_of_lt old, pidAt_append_of_lt (by omega)]
  unfold turns
  rw [List.length_append, List.length_singleton, Finset.range_add_one, Finset.filter_insert,
    earlier]
  by_cases last : Turns (lines ++ [line]) lines.length
  · rw [if_pos last, if_neg ((turns_length_iff lines line).mp last),
      Finset.card_insert_of_notMem (by simp)]
  · rw [if_neg last, if_pos (not_not.mp fun new => last ((turns_length_iff lines line).mpr new)),
      Nat.add_zero]

end Uniprocessor
