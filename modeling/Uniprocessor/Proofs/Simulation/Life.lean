import Uniprocessor.Proofs.Simulation.Run

/-!
The lives of processes.

A process grows older by its ticks of work and leaves in the end
(`Process.life`). In a move everybody rests but the process at work, and that
one works, or leaves, or rests too (`Sound.course`). So a process never works for
longer than its lifespan, and it leaves when that is used up (`Process.Aged`,
`lasting_aged`). Since a tick began, a life has gone on by the work and the leave
that the tick has got to (`Simulation.lifeIn`, `Sound.lives`).
-/

namespace Uniprocessor

/-- How far a process has got: the work behind it, whether it has left, and when. -/
structure Life where
  age : Nat
  gone : Bool
  exitTick : Option Nat

namespace Process

def life (p : Process) : Life := ⟨p.age, p.state == .exited, p.exitTick⟩

/-- The process has not worked for longer than its lifespan, and for all of it
before it left. -/
structure Aged (p : Process) : Prop where
  bounded : p.age ≤ p.lifespan
  spent : p.state = .exited → p.age = p.lifespan

variable {p p' : Process}

@[simp] theorem life_marked (p : Process) (queue : Option QueueId) :
    (p.marked queue).life = p.life := rfl

/-- To move between states goes on with a life, but for leaving. -/
theorem life_inState {state : State} (before : p.state ≠ .exited) (after : state ≠ .exited) :
    (p.inState state).life = p.life := by
  simp only [life, inState, beq_eq_false_iff_ne.mpr before, beq_eq_false_iff_ne.mpr after]

theorem age_of_life (same : p'.life = p.life) : p'.age = p.age := congrArg (·.age) same

theorem exited_of_life (same : p'.life = p.life) : p'.state = .exited ↔ p.state = .exited := by
  have gone : (p'.state == .exited) = (p.state == .exited) := congrArg (·.gone) same
  rw [← beq_iff_eq, gone, beq_iff_eq]

theorem Aged.congr (aged : p.Aged) (life : p'.life = p.life)
    (lifespan : p'.lifespan = p.lifespan) : p'.Aged := by
  constructor
  · rw [age_of_life life, lifespan]
    exact aged.bounded
  · rw [age_of_life life, lifespan, exited_of_life life]
    exact aged.spent

/-- Whoever has only just been born has its whole lifespan left. -/
theorem aged_of_newborn (life : p.life = ⟨0, false, none⟩) : p.Aged := by
  have born : p.life = (default : Process).life := life
  constructor
  · rw [age_of_life born]
    exact Nat.zero_le _
  · rw [exited_of_life born]
    nofun

end Process

theorem ProcessSpec.life_of_build {spec : ProcessSpec} {p : Process}
    (built : spec.build = .ok p) : p.life = ⟨0, false, none⟩ := by
  unfold ProcessSpec.build at built
  split at built
  · cases built
  · cases built
    rfl

/-- A protocol and the log have no part in a life. -/
theorem Kernel.Alike.life {k k' : Kernel} (alike : k.Alike k') (h : Handle) :
    (k'.process h).life = (k.process h).life :=
  alike.view Process.life (fun _ => rfl) h

namespace Phase

/-- The process has done its tick of work. -/
@[simp] def worked : Phase → Handle → Bool
  | .expiring h _, j | .closing (some h) .run, j | .closing (some h) .exit, j => h == j
  | _, _ => false

/-- The process has left in this tick. -/
@[simp] def left : Phase → Handle → Bool
  | .closing (some h) .exit, j => h == j
  | _, _ => false

end Phase

variable {m m' : Moment} {s t : Simulation} {h j : Handle}

/-! ### What becomes of a process in a move -/

/-- The process rests in the move, or it works, or it leaves. -/
inductive Course (m m' : Moment) (j : Handle) : Prop where
  | rests (life : (m'.sim.kernel.process j).life = (m.sim.kernel.process j).life)
      (worked : m'.phase.worked j = m.phase.worked j) (left : m'.phase.left j = m.phase.left j)
  | works {todo : List Int} (before : m.phase = .issuing j) (after : m'.phase = .expiring j todo)
      (young : (m.sim.kernel.process j).age < (m.sim.kernel.process j).lifespan)
      (older : m'.sim.kernel.process j = (m.sim.kernel.process j).older)
  | leaves (before : m.phase = .expiring j []) (after : m'.phase = .closing (some j) .exit)
      (finished : (m.sim.kernel.process j).lifespan ≤ (m.sim.kernel.process j).age)
      (gone : m'.sim.kernel.process j =
        ((m.sim.kernel.process j).inState .exited).leftAt (m.sim.kernel.tick + 1))

/-- Everybody rests in a move but the process at work. -/
theorem Sound.course (sound : Sound m) (move : Move m m') (j : Handle) : Course m m' j := by
  cases move with
  | @arrive s spec later p k next due built same =>
      refine .rests ?_ rfl rfl
      by_cases new : s.kernel.nextHandle = j
      · -- A handle that is not in use yet stands for somebody unborn, who has done nothing either.
        have unused := Kernel.process_of_unused sound.roster.fresh
        simp only [Simulation.onto_views, same.process, Kernel.process_receive, ← new, if_true,
          Process.life_marked, ProcessSpec.life_of_build built, unused]
        rfl
      · simp [same.process, new]
  | settle early => exact .rests rfl rfl rfl
  | @preempt s h k goes same =>
      refine .rests ?_ rfl rfl
      have running := Policy.running_of_continuing goes
      by_cases own : h = j
      · subst own
        simp [same.process, Process.life_inState, running]
      · simp [same.process, own]
  | idle free empty same => exact .rests (by simp [same.process]) rfl rfl
  | resume goes same => exact .rests (by simp [same.process]) rfl rfl
  | @take s h k switches free mem same counted =>
      refine .rests ?_ rfl rfl
      have ready := sound.state_of_mem_ready mem
      by_cases own : h = j
      · subst own
        simp [same.process, Process.life_inState, ready]
      · simp [same.process, own]
  | grant next due free ran alike memory => exact .rests (by simp [alike.life]) rfl rfl
  | @refuse s h owner q later k next due owned ran alike tracked =>
      refine .rests ?_ rfl rfl
      have running := (sound.running rfl).2.1
      by_cases own : h = j
      · subst own
        simp [alike.life, Process.life_inState, running]
      · simp [alike.life, own]
  | @work s h satisfied =>
      by_cases own : h = j
      · subst own
        exact .works rfl rfl sound.young (by simp)
      · exact .rests (by simp [own]) (by simp [own]) rfl
  | elapse found more => exact .rests rfl rfl rfl
  | @giveBack s h r left todo k found last ran alike tracked =>
      refine .rests ?_ rfl rfl
      by_cases first : (s.kernel.queue (.waiting r)).head? = some j
      · have asleep := (sound.waiting_of_head? first).2
        simp [alike.life, first, Process.life_inState, asleep]
      · simp [alike.life, first]
  | yield unfinished => exact .rests rfl rfl rfl
  | @leave s h k finished same =>
      by_cases own : h = j
      · subst own
        exact .leaves rfl rfl finished (by simp [same.process])
      · exact .rests (by simp [same.process, own]) rfl (by simp [own])

/-! ### Nobody works for longer than its lifespan -/

/-- A move keeps everybody within its lifespan. -/
theorem Sound.aged (sound : Sound m) (aged : ∀ j, (m.sim.kernel.process j).Aged)
    (move : Move m m') : ∀ j, (m'.sim.kernel.process j).Aged := by
  intro j
  cases sound.course move j with
  | rests life worked left =>
      by_cases used : j ∈ m.sim.kernel.handles
      · exact (aged j).congr life (congrArg (·.lifespan) (sound.stays move used).2)
      · rw [Kernel.process_of_unused used] at life
        exact Process.aged_of_newborn life
  | works before after young older =>
      have running := (sound.running (h := j) (by rw [before]; rfl)).2.1
      rw [older]
      constructor
      · simpa using Nat.succ_le_of_lt young
      · simp [running]
  | leaves before after finished gone =>
      have bounded := (aged j).bounded
      rw [gone]
      constructor
      · simpa using bounded
      · simpa using Nat.le_antisymm bounded finished

theorem lasting_aged : Lasting fun m => ∀ j, (m.sim.kernel.process j).Aged where
  move := Sound.aged
  close {s chosen event} _ aged := by simpa using aged

/-- Nobody has worked before the start. -/
theorem Simulation.Fresh.aged (fresh : s.Fresh) (j : Handle) : (s.kernel.process j).Aged := by
  rw [Kernel.process_of_unused (by simp [fresh.kernel.handles])]
  exact Process.aged_of_newborn rfl

/-! ### What a tick adds to a life -/

/-- The life of a process since a tick began, where the tick has got to. -/
def Simulation.lifeIn (s : Simulation) (phase : Phase) (j : Handle) : Life where
  age := (s.kernel.process j).age + (phase.worked j).toNat
  gone := (s.kernel.process j).state == .exited || phase.left j
  exitTick := if phase.left j then some (s.kernel.tick + 1) else (s.kernel.process j).exitTick

/-- A move leads from what a tick has added so far to what it adds then. -/
theorem Sound.lives (sound : Sound m) (clock : m.sim.kernel.tick = s.kernel.tick)
    (lives : (m.sim.kernel.process j).life = s.lifeIn m.phase j) (move : Move m m') :
    (m'.sim.kernel.process j).life = s.lifeIn m'.phase j := by
  cases sound.course move j with
  | rests life worked left =>
      rw [life, lives]
      simp only [Simulation.lifeIn, worked, left]
  | works before after young older =>
      simp only [Simulation.lifeIn, before, Process.life, Life.mk.injEq] at lives
      obtain ⟨age, gone, exitTick⟩ := lives
      rw [older, after]
      simp [Simulation.lifeIn, Process.life, Process.older, age, gone, exitTick]
  | leaves before after finished gone =>
      simp only [Simulation.lifeIn, before, Process.life, Life.mk.injEq] at lives
      obtain ⟨age, _, _⟩ := lives
      rw [gone, after]
      simp [Simulation.lifeIn, Process.life, Process.inState, Process.leftAt, age, clock]

end Uniprocessor
