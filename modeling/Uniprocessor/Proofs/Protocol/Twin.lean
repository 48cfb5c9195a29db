import Uniprocessor.Proofs.Kernel.Twin
import Uniprocessor.Protocol

/-!
Under any two protocols, twins stay twins.

Every protocol asks and gives back as first come, first served does
(`together_acquireFifo`, `together_releaseFifo`). What it does besides
(`Protocol.answered`, `Protocol.released`) changes boosts, the log and the notes
only, so the other side need not do it (`alone_answered`, `alone_released`). This holds on every
branch, along chains of owners of any length, and for any table of notes. Hence
acquisitions and releases under two protocols run together.
-/

namespace Uniprocessor.Protocol

open KernelM
open EStateM (Together reads_get)
open Kernel (Twin)

variable {α : Type} {paced : Prop} {others : List Handle} {k l : Kernel} {h : Handle} {r : Int}

/-! ### First come, first served -/

theorem together_caller {access : Access} (twin : k.Twin paced others l) {f g : Handle → KernelM α}
    (rest : ∀ h, k.current = some h → Together (Twin paced others) (f h) (g h) k l) :
    Together (Twin paced others) (caller access r >>= f) (caller access r >>= g) k l := by
  cases current : k.current with
  | none =>
      intro a b s t ran
      simp only [caller, EStateM.run_bind, EStateM.run_get, current] at ran
      cases ran
  | some h =>
      have current' : l.current = some h := twin.current.trans current
      have left : (caller access r).run k = .ok h k := by simp [caller, current]
      have right : (caller access r).run l = .ok h l := by simp [caller, current']
      exact .read (.of_run left) (.of_run right) (rest h current)

theorem together_acquireFifo (twin : k.Twin paced others l) :
    Together (Twin paced others) (acquireFifo r) (acquireFifo r) k l := by
  refine together_caller twin fun h current => .read reads_resource reads_resource ?_
  refine .read reads_process reads_process ?_
  rw [twin.owner]
  split
  · split
    · exact .throw_left _ _
    · refine (forgetting (together_move twin _)).bind fun _ _ _ twin => ?_
      refine (together_enqueue twin).bind fun _ _ _ twin => ?_
      refine .read reads_get reads_get ?_
      exact (together_record twin _ _).bind fun _ _ _ twin => .pure _ twin
  · have used := twin.known.current h current
    refine (together_setOwner twin (by rintro _ ⟨⟩; exact used)).bind fun _ _ _ twin => ?_
    exact (together_record twin _ _).bind fun _ _ _ twin => .pure _ twin

theorem together_releaseFifo (twin : k.Twin paced others l) :
    Together (Twin paced others) (releaseFifo r) (releaseFifo r) k l := by
  refine together_caller twin fun h _ => .read reads_resource reads_resource ?_
  refine .read reads_process reads_process ?_
  rw [twin.owner]
  split
  · exact .throw_left _ _
  · split
    · exact .read reads_get reads_get (.throw_left _ _)
    · refine (together_setOwner twin (by simp)).bind fun _ _ _ twin => ?_
      refine (together_record twin _ _).bind fun _ _ _ twin => ?_
      refine (together_takeHead twin).bind fun woken _ _ twin => ?_
      cases woken with
      | none => exact .pure _ twin
      | some waiter =>
          refine (forgetting (together_move twin _)).bind fun _ _ _ twin => ?_
          refine (together_enqueue twin).bind fun _ _ _ twin => ?_
          refine .read reads_get reads_get ?_
          exact (together_record twin _ _).bind fun _ _ _ twin => .pure _ twin

/-! ### Elevations, on one side alone -/

theorem alone_record (twin : k.Twin paced others l) (e : Event) :
    Together (Twin paced others) (pure ()) (record e) k l :=
  .modify (f := id) (twin.recorded e)

theorem alone_boost (twin : k.Twin paced others l) (used : h ∈ k.handles) (priority : Int) :
    Together (Twin paced others) (pure ()) (boost h r priority) k l := by
  rintro _ _ _ _ ⟨⟩ ⟨⟩
  exact ⟨rfl, twin.elevated (twin.handles ▸ used) (Kernel.clearBoosts_boost r priority)⟩

theorem alone_unboost (twin : k.Twin paced others l) (used : h ∈ k.handles) :
    Together (Twin paced others) (pure ()) (unboost h r) k l := by
  have kept : k.Twin paced others (l.edit h (·.unboost r)) :=
    twin.elevated (twin.handles ▸ used) fun _ => rfl
  rintro _ _ _ _ ⟨⟩ ⟨⟩
  exact ⟨rfl, kept⟩

theorem alone_clearBoosts (twin : k.Twin paced others l) (used : h ∈ k.handles) :
    Together (Twin paced others) (pure ()) (clearBoosts h) k l := by
  rintro _ _ _ _ ⟨⟩ ⟨⟩
  exact ⟨rfl, twin.elevated (twin.handles ▸ used) fun _ => rfl⟩

theorem alone_setBlockedOn (twin : k.Twin paced others l) (change : Table Int Int → Table Int Int) :
    Together (Twin paced others) (pure ()) (setBlockedOn change) k l := by
  rintro _ _ _ _ ⟨⟩ ⟨⟩
  exact ⟨rfl, twin.remembered fun _ => rfl⟩

theorem alone_raiseToCeiling (twin : k.Twin paced others l) (used : h ∈ k.handles) :
    Together (Twin paced others) (pure ()) (raiseToCeiling h r) k l := by
  refine .alone_read reads_process (.alone_read reads_resource ?_)
  split
  · split
    · exact .alone_bind (alone_boost twin used _) fun _ twin => alone_record twin _
    · exact .pure _ twin
  · exact .pure _ twin

theorem alone_inheritFromWaiters (twin : k.Twin paced others l) (used : h ∈ k.handles) :
    Together (Twin paced others) (pure ()) (inheritFromWaiters h r) k l := by
  refine .alone_read reads_get ?_
  split
  · split
    · exact alone_boost twin used _
    · exact .pure _ twin
  · exact .pure _ twin

/-- However long the chain of owners is, a donation boosts owners and nobody else. -/
theorem alone_donate (priority : Int) (fuel : Nat) (met : List Int) (twin : k.Twin paced others l) :
    Together (Twin paced others) (pure ()) (donate priority fuel met r) k l := by
  induction fuel generalizing met r l with
  | zero => exact .pure _ twin
  | succ fuel ih =>
      refine .alone_read reads_resource ?_
      rw [twin.owner]
      split
      · exact .pure _ twin
      · rename_i owner owned
        refine .alone_read reads_process ?_
        split
        · exact .pure _ twin
        · refine .alone_bind (alone_boost twin (twin.known.owner r owner owned) _) fun _ twin => ?_
          refine .alone_bind (alone_record twin _) fun _ twin => .alone_read reads_get ?_
          split
          · exact ih _ twin
          · exact .pure _ twin

theorem alone_forM_inherit (held : List Int) (twin : k.Twin paced others l) (used : h ∈ k.handles) :
    Together (Twin paced others) (pure ()) (held.forM (inheritFromWaiters h)) k l := by
  induction held generalizing l with
  | nil => exact .pure _ twin
  | cons r held ih => exact .alone_bind (alone_inheritFromWaiters twin used) fun _ twin => ih twin

theorem alone_recompute (twin : k.Twin paced others l) (used : h ∈ k.handles) :
    Together (Twin paced others) (pure ()) (recompute h) k l := by
  refine .alone_bind (alone_clearBoosts twin used) fun _ twin => .alone_read reads_get ?_
  refine .alone_bind (alone_forM_inherit _ twin used) fun _ twin => .alone_read reads_process ?_
  exact alone_record twin _

/-! ### The protocols -/

/-- What a protocol does about a request once it has been granted or refused. -/
def answered (protocol : Protocol) (h : Handle) (r : Int) (granted : Bool) : KernelM Bool :=
  match protocol, granted with
  | .fifo, _ | .ceiling, false => pure granted
  | .ceiling, true => do
      raiseToCeiling h r
      pure true
  | .inheritance, true => do
      inheritFromWaiters h r
      pure true
  | .inheritance, false => do
      let p ← process h
      setBlockedOn (·.put p.pid r)
      donate p.priority ((← get).resources.size + 1) [p.pid] r
      pure false

theorem acquire_eq (protocol : Protocol) (r : Int) :
    protocol.acquire r = (do
      let h ← caller .acquire r
      let granted ← acquireFifo r
      protocol.answered h r granted) := rfl

/-- What a protocol does once a resource is free and its first waiter awake. -/
def released (protocol : Protocol) (h : Handle) (r : Int) (woken : Option Handle) :
    KernelM Unit :=
  match protocol with
  | .fifo => pure ()
  | .ceiling => do
      unboost h r
      let p ← process h
      record (.backTo p.pid p.priority)
  | .inheritance => do
      match woken with
      | some waiter => do
          let w ← process waiter
          setBlockedOn (·.erase w.pid)
      | none => pure ()
      recompute h

theorem release_eq (protocol : Protocol) (r : Int) :
    protocol.release r = (do
      let h ← caller .release r
      let woken ← releaseFifo r
      protocol.released h r woken) := rfl

theorem alone_answered (protocol : Protocol) (granted : Bool) (twin : k.Twin paced others l)
    (used : h ∈ k.handles) :
    Together (Twin paced others) (pure granted) (protocol.answered h r granted) k l := by
  cases protocol with
  | fifo => exact .pure _ twin
  | ceiling =>
      cases granted with
      | false => exact .pure _ twin
      | true => exact .alone_bind (alone_raiseToCeiling twin used) fun _ twin => .pure _ twin
  | inheritance =>
      cases granted with
      | false =>
          refine .alone_read reads_process ?_
          refine .alone_bind (alone_setBlockedOn twin _) fun _ twin => .alone_read reads_get ?_
          exact .alone_bind (alone_donate _ _ _ twin) fun _ twin => .pure _ twin
      | true => exact .alone_bind (alone_inheritFromWaiters twin used) fun _ twin => .pure _ twin

theorem alone_released (protocol : Protocol) (woken : Option Handle) (twin : k.Twin paced others l)
    (used : h ∈ k.handles) :
    Together (Twin paced others) (pure ()) (protocol.released h r woken) k l := by
  cases protocol with
  | fifo => exact .pure _ twin
  | ceiling =>
      refine .alone_bind (alone_unboost twin used) fun _ twin => .alone_read reads_process ?_
      exact alone_record twin _
  | inheritance =>
      cases woken with
      | none => exact alone_recompute twin used
      | some waiter =>
          refine .alone_read reads_process ?_
          exact .alone_bind (alone_setBlockedOn twin _) fun _ twin => alone_recompute twin used

/-- Two sides that each go on alone from twins leave twins. -/
theorem together_of_alone {x y : KernelM α} {a : α} (twin : k.Twin paced others l)
    (left : ∀ {k' : Kernel}, k.Twin paced others k' → Together (Twin paced others) (pure a) x k k')
    (right : Together (Twin paced others) (pure a) y k l) :
    Together (Twin paced others) x y k l :=
  .both (left (.refl twin.known)) right fun _ _ same same' => same.symm.trans same'

theorem together_acquire (p q : Protocol) (twin : k.Twin paced others l) :
    Together (Twin paced others) (p.acquire r) (q.acquire r) k l := by
  rw [acquire_eq, acquire_eq]
  refine together_caller twin fun h current => ?_
  have named := twin.naming (twin.known.current h current)
  refine forgetting (h := h) ?_
  refine (together_acquireFifo named).bind fun granted _ _ twin => ?_
  exact together_of_alone twin (fun same => alone_answered p granted same twin.used)
    (alone_answered q granted twin twin.used)

theorem together_release (p q : Protocol) (twin : k.Twin paced others l) :
    Together (Twin paced others) (p.release r) (q.release r) k l := by
  rw [release_eq, release_eq]
  refine together_caller twin fun h current => ?_
  have named := twin.naming (twin.known.current h current)
  refine forgetting (h := h) ?_
  refine (together_releaseFifo named).bind fun woken _ _ twin => ?_
  exact together_of_alone twin (fun same => alone_released p woken same twin.used)
    (alone_released q woken twin twin.used)

theorem alone_reset (protocol : Protocol) (twin : k.Twin paced others l) :
    Together (Twin paced others) (pure ()) protocol.reset k l := by
  cases protocol with
  | fifo | ceiling => exact .pure _ twin
  | inheritance => exact alone_setBlockedOn twin fun _ => {}

theorem together_reset (p q : Protocol) (twin : k.Twin paced others l) :
    Together (Twin paced others) p.reset q.reset k l :=
  together_of_alone twin (fun same => alone_reset p same) (alone_reset q twin)

end Uniprocessor.Protocol
