import Uniprocessor.Proofs.Simulation.Course
import Uniprocessor.Proofs.Simulation.Picks

/-!
Round robin never starves anybody and never overruns a slice.

The slice in use counts the choices since the last turn: it grows by one while the
running process goes on, and starts at one with every turn. Where somebody is ready,
a turn never takes the process that has just run, so whoever is chosen again and
again has its slice, and no more (`Simulation.slice_of_again`). Nobody overtakes
those in the ready queue. Each choice either uses up some of the slice in front of
them or takes one of them away (`Simulation.Follows.delay_lt`), and that bounds how
long anybody waits there (`Simulation.PicksAt.within_delay`).
-/

namespace Uniprocessor

open Policy (continuing lasts)

/-- How many choices may come before the process at the place in the ready queue is chosen:
those left of the slice in use, and a slice for each one before it. -/
def Kernel.delay (q : Nat) (k : Kernel) (place : Nat) : Nat :=
  place * q + if (continuing k).isSome then q - k.memory.sliceUsed else 0

namespace Simulation

variable {s g g' : Simulation} {q n : Nat} {h : Handle} {chosen chosen' : Option Handle}
  {protocol : Protocol}

namespace Follows

/-- Whoever is chosen twice running although somebody else is ready still has its slice. -/
theorem lasts_of_again (follows : g.Follows (.roundRobin q) g')
    (first : ((Discipline.roundRobin q).decision g.kernel).chosen = some h)
    (again : ((Discipline.roundRobin q).decision g'.kernel).chosen = some h)
    (others : g'.kernel.queue .ready ≠ []) : lasts q g'.kernel = true := by
  by_contra turn
  obtain ⟨j, rest, ready⟩ := List.exists_cons_of_ne_nil others
  obtain ⟨head, _⟩ := Discipline.chosen_of_turn (Bool.not_eq_true _ ▸ turn) ready
  obtain rfl := Option.some.inj (again.symm.trans head)
  have mem : h ∈ g'.kernel.queue .ready := by simp [ready]
  exact follows.away h first mem

/-- Each choice brings those who are ready nearer to being chosen. -/
theorem delay_lt (follows : g.Follows (.roundRobin q) g') (positive : 0 < q)
    (schedulable : g.kernel.Schedulable) {place : Nat}
    (mem : (g.kernel.queue .ready)[place]? = some h)
    (other : ((Discipline.roundRobin q).decision g.kernel).chosen ≠ some h) :
    ∃ place', (g'.kernel.queue .ready)[place']? = some h ∧
      g'.kernel.delay q place' < g.kernel.delay q place := by
  obtain ⟨more, ready⟩ := follows.ready
  have slice := follows.slice
  -- While the slice lasts the place is kept and less of the slice is left; with a new slice
  -- everybody behind the first moves up.
  cases goes : lasts q g.kernel with
  | true =>
      simp only [lasts, Bool.and_eq_true, decide_eq_true_eq] at goes
      obtain ⟨c, runs⟩ := Option.isSome_iff_exists.mp goes.1
      have away := Policy.not_ready_of_continuing schedulable runs
      have kept : (g.kernel.queue .ready).filter (fun j => some c ≠ some j) =
          g.kernel.queue .ready := by
        refine List.filter_eq_self.mpr fun j mem => decide_eq_true fun is => ?_
        exact away (Option.some.inj is ▸ mem)
      have lasting : lasts q g.kernel = true := by simp [lasts, goes]
      rw [Discipline.decision_of_lasts lasting] at ready slice
      simp only [runs, Option.toList_none, List.append_nil, kept] at ready slice
      refine ⟨place, ?_, ?_⟩
      · rw [ready, List.getElem?_append_left (List.getElem?_eq_some_iff.mp mem).1, mem]
      · unfold Kernel.delay
        rw [slice, if_pos goes.1]
        split <;> omega
  | false =>
      cases members : g.kernel.queue .ready with
      | nil => simp [members] at mem
      | cons j rest =>
          obtain ⟨head, one⟩ := Discipline.chosen_of_turn goes members
          rw [head] at other ready
          rw [one] at slice
          cases place with
          | zero =>
              rw [members] at mem
              exact absurd mem other
          | succ place =>
              have later : rest[place]? = some h := by simpa [members] using mem
              have alone : j ∉ rest := by
                have nodup := schedulable.linked.nodup .ready
                rw [members] at nodup
                exact (List.nodup_cons.mp nodup).1
              have kept : rest.filter (fun i => some j ≠ some i) = rest := by
                refine List.filter_eq_self.mpr fun i mem => decide_eq_true fun is => ?_
                exact alone (Option.some.inj is ▸ mem)
              rw [members, List.cons_append, List.filter_cons_of_neg (by simp),
                List.filter_append, kept, List.append_assoc] at ready
              refine ⟨place, ?_, ?_⟩
              · rw [ready, List.getElem?_append_left (List.getElem?_eq_some_iff.mp later).1, later]
              · have slices : (place + 1) * q = place * q + q := Nat.succ_mul place q
                unfold Kernel.delay
                rw [slice, slices]
                split <;> omega

end Follows

/-! ### From one tick to the next -/

/-- Whoever goes on has some of its slice used. -/
theorem PicksAt.slice_pos (fresh : s.Fresh) (early : s.started = false)
    (policy : s.policy = .of (.roundRobin q) protocol) (picks : s.PicksAt n g chosen)
    (goes : continuing g.kernel = some h) : 0 < g.kernel.memory.sliceUsed := by
  cases n with
  | zero =>
      rw [picks.continuing_first fresh early] at goes
      cases goes
  | succ n =>
      obtain ⟨u, g₀, e, chosen₀, event, ticks⟩ := exists_ticks fresh early n
      have follows := ticks.picksAt.follows fresh early policy picks
      rw [follows.slice]
      exact Discipline.slice_pos_of_chosen (follows.continuing h goes).1

/-- Whoever is chosen again and again although somebody else is ready uses up its slice. -/
theorem slice_of_again (fresh : s.Fresh) (early : s.started = false)
    (policy : s.policy = .of (.roundRobin q) protocol) {m : Nat}
    (again : ∀ i ≤ m, ∃ g, s.PicksAt (n + i) g (some h))
    (others : ∀ i g, 1 ≤ i → i ≤ m → s.PicksAt (n + i) g (some h) → g.kernel.queue .ready ≠ [])
    (last : s.PicksAt (n + m) g (some h)) :
    m < ((Discipline.roundRobin q).decision g.kernel).slice ∧
      (0 < m → lasts q g.kernel = true) := by
  -- On the ticks in a row: somebody else is ready in each, so it goes on only while its slice
  -- lasts.
  induction m generalizing g with
  | zero => exact ⟨Discipline.slice_pos_of_chosen (last.chosen_eq fresh early policy).symm, nofun⟩
  | succ m ih =>
      obtain ⟨g₀, before⟩ := again m (Nat.le_succ m)
      obtain ⟨used, _⟩ := ih (fun i most => again i (Nat.le_succ_of_le most))
        (fun i g least most => others i g least (Nat.le_succ_of_le most)) before
      have follows := before.follows fresh early policy last
      have goes := follows.lasts_of_again (before.chosen_eq fresh early policy).symm
        (last.chosen_eq fresh early policy).symm
        (others (m + 1) g (Nat.succ_pos m) (Nat.le_refl _) last)
      have slice := follows.slice
      refine ⟨?_, fun _ => goes⟩
      rw [Discipline.decision_of_lasts goes]
      show m + 1 < g.kernel.memory.sliceUsed + 1
      omega

/-- Whoever is chosen again and again for longer than a slice finds nobody ready on the way. -/
theorem exists_nobody_ready (fresh : s.Fresh) (early : s.started = false)
    (policy : s.policy = .of (.roundRobin q) protocol) (positive : 0 < q)
    (again : ∀ i ≤ q, ∃ g, s.PicksAt (n + i) g (some h)) :
    ∃ i g, 1 ≤ i ∧ i ≤ q ∧ s.PicksAt (n + i) g (some h) ∧ g.kernel.queue .ready = [] := by
  by_contra none_empty
  have others : ∀ i g, 1 ≤ i → i ≤ q → s.PicksAt (n + i) g (some h) →
      g.kernel.queue .ready ≠ [] :=
    fun i g least most picks empty => none_empty ⟨i, g, least, most, picks, empty⟩
  obtain ⟨g, last⟩ := again q (Nat.le_refl q)
  obtain ⟨used, goes⟩ := slice_of_again fresh early policy again others last
  have goes := goes positive
  rw [Discipline.decision_of_lasts goes] at used
  have used : q < g.kernel.memory.sliceUsed + 1 := used
  simp only [lasts, Bool.and_eq_true, decide_eq_true_eq] at goes
  omega

/-- Whoever is ready is chosen within its delay. -/
theorem PicksAt.within_delay (fresh : s.Fresh) (early : s.started = false)
    (policy : s.policy = .of (.roundRobin q) protocol) (positive : 0 < q) {place : Nat}
    (picks : s.PicksAt n g chosen) (mem : (g.kernel.queue .ready)[place]? = some h) :
    ∃ i ≤ g.kernel.delay q place, ∃ g', s.PicksAt (n + i) g' (some h) := by
  induction bound : g.kernel.delay q place using Nat.strong_induction_on
    generalizing n g chosen place with
  | _ delay ih =>
      by_cases now : chosen = some h
      · subst now
        exact ⟨0, Nat.zero_le _, g, picks⟩
      · obtain ⟨u, e, event, ticks⟩ := picks.ticks fresh early
        obtain ⟨g', e', chosen', event', ticks'⟩ := ticks.next
        have follows := picks.follows fresh early policy ticks'.picksAt
        obtain ⟨place', mem', nearer⟩ := follows.delay_lt positive
          ticks.choosing.order.schedulable mem (picks.chosen_eq fresh early policy ▸ now)
        obtain ⟨i, most, g'', later⟩ := ih _ (bound ▸ nearer) ticks'.picksAt mem' rfl
        refine ⟨i + 1, by omega, g'', ?_⟩
        rwa [Nat.add_right_comm, Nat.add_assoc] at later

/-- The delay is less than a quantum for each one up to the place: a slice in use has begun. -/
theorem PicksAt.delay_lt (fresh : s.Fresh) (early : s.started = false)
    (policy : s.policy = .of (.roundRobin q) protocol) (positive : 0 < q)
    (picks : s.PicksAt n g chosen) (place : Nat) :
    g.kernel.delay q place < (place + 1) * q := by
  have slices : (place + 1) * q = place * q + q := Nat.succ_mul place q
  unfold Kernel.delay
  rw [slices]
  split
  · rename_i goes
    obtain ⟨c, goes⟩ := Option.isSome_iff_exists.mp goes
    have some_used := picks.slice_pos fresh early policy goes
    omega
  · omega

/-- The report of a run tells who was picked in each of its ticks. -/
theorem Course.line {w : Workload} {s₀ t : Simulation} {m : Nat} (made : s.MadeOf w)
    (course : s.Course s₀ m t) (picks : s.PicksAt n g chosen)
    (within : n < t.ended.report.timeline.length) :
    ∃ line, t.ended.report.timeline[n]? = some line ∧
      line.pid = chosen.map fun h => (g.kernel.process h).pid := by
  have early : s.started = false := by rw [made.is]
  have empty : s.timeline.size = 0 := by rw [made.is]; rfl
  have timeline : t.ended.report.timeline = t.timeline.toList := by
    rw [t.ends_ended.report]
    rfl
  rw [timeline, made.timeline_length course.begun course.goes] at within
  obtain ⟨m, rfl⟩ := Nat.exists_eq_succ_of_ne_zero (Nat.ne_zero_of_lt within)
  obtain ⟨line, noted, pid⟩ := picks.line made.fresh early empty (course.steps course.goes) within
  exact ⟨line, by rw [timeline, Array.getElem?_toList, noted], pid⟩

end Simulation

/-- In every run of a parsed workload under round robin, with any protocol: whoever is
chosen on more consecutive ticks than its quantum has found the ready queue empty on one
of them, the first apart; and whoever is at place `k` of the ready queue when the policy
is asked is chosen within `k + 1` quanta, as the timeline says if it goes on so long. -/
theorem round_robin_fair {text : Text} {w : Workload} {resources : Int} {q : Nat}
    (parsed : Workload.ofText text = .ok w) (positive : 0 < resources)
    (fits : ∀ r ∈ w.resourceIds, r < resources) (some_slice : 1 ≤ q) (protocol : Protocol)
    (limit : Option Int) :
    ∃ s report t, Simulation.create w (.of (.roundRobin q) protocol) resources limit = .ok s ∧
      s.run = .ok report t ∧
      (∀ n, ∃ g chosen, s.PicksAt n g chosen ∧ ∀ line, report.timeline[n]? = some line →
        line.pid = chosen.map fun h => (g.kernel.process h).pid) ∧
      (∀ n h, (∀ i ≤ q, ∃ g, s.PicksAt (n + i) g (some h)) →
        ∃ i g, 1 ≤ i ∧ i ≤ q ∧ s.PicksAt (n + i) g (some h) ∧ g.kernel.queue .ready = []) ∧
      ∀ n g chosen k h, s.PicksAt n g chosen → (g.kernel.queue .ready)[k]? = some h →
        (∃ i < (k + 1) * q, ∃ g', s.PicksAt (n + i) g' (some h)) ∧
        (n + (k + 1) * q ≤ report.timeline.length → ∃ i < (k + 1) * q, ∃ line,
          report.timeline[n + i]? = some line ∧ line.pid = some (g.kernel.process h).pid) := by
  obtain ⟨_, s, created, fresh, is⟩ := Simulation.create_of_valid (Workload.valid_ofText parsed)
    positive fits (.roundRobin q) protocol limit
  have early : s.started = false := by rw [is]
  have policy : s.policy = .of (.roundRobin q) protocol := by rw [is]
  have made : s.MadeOf w := ⟨fresh, by rw [is]⟩
  obtain ⟨s₀, m, t, course⟩ := made.course
  refine ⟨s, t.ended.report, t.ended, created, course.run, fun n => ?_, fun n h again => ?_,
    fun n g chosen k h picks mem => ?_⟩
  · obtain ⟨u, g, e, chosen, event, ticks⟩ := Simulation.exists_ticks fresh early n
    refine ⟨g, chosen, ticks.picksAt, fun line found => ?_⟩
    have within := (List.getElem?_eq_some_iff.mp found).1
    obtain ⟨line', noted, pid⟩ := course.line made ticks.picksAt within
    rw [found] at noted
    cases noted
    exact pid
  · exact Simulation.exists_nobody_ready fresh early policy some_slice again
  · obtain ⟨i, most, g', later⟩ := picks.within_delay fresh early policy some_slice mem
    have soon := Nat.lt_of_le_of_lt most (picks.delay_lt fresh early policy some_slice k)
    refine ⟨⟨i, soon, g', later⟩, fun long => ?_⟩
    obtain ⟨line, noted, pid⟩ := course.line made later (by omega)
    obtain ⟨u, e, event, ticks⟩ := picks.ticks fresh early
    have used := ticks.choosing.order.linked.used (List.mem_iff_getElem?.mpr ⟨k, mem⟩)
    have same := (picks.pid fresh early policy used later).2
    exact ⟨i, soon, line, noted, by rw [pid, ← same]; rfl⟩

theorem round_robin_fair_contended :
    ∃ s report t, Simulation.create .contended (.of (.roundRobin 1) .inheritance) 1 none = .ok s ∧
      s.run = .ok report t ∧
      (∀ n, ∃ g chosen, s.PicksAt n g chosen ∧ ∀ line, report.timeline[n]? = some line →
        line.pid = chosen.map fun h => (g.kernel.process h).pid) ∧
      (∀ n h, (∀ i ≤ 1, ∃ g, s.PicksAt (n + i) g (some h)) →
        ∃ i g, 1 ≤ i ∧ i ≤ 1 ∧ s.PicksAt (n + i) g (some h) ∧ g.kernel.queue .ready = []) ∧
      ∀ n g chosen k h, s.PicksAt n g chosen → (g.kernel.queue .ready)[k]? = some h →
        (∃ i < (k + 1) * 1, ∃ g', s.PicksAt (n + i) g' (some h)) ∧
        (n + (k + 1) * 1 ≤ report.timeline.length → ∃ i < (k + 1) * 1, ∃ line,
          report.timeline[n + i]? = some line ∧ line.pid = some (g.kernel.process h).pid) :=
  round_robin_fair Workload.ofText_contention (by decide)
    (by simp [Workload.resourceIds_contended]) (by decide) .inheritance none

end Uniprocessor
