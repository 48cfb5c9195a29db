import Uniprocessor.Simulation

/-!
How programs of the kernel and of the simulation run.

The library says how binds, reads and writes run (`EStateM.run_bind` and its
siblings). Here is what it leaves open, and how a kernel operation runs as a
step of the simulation (`run_onKernel`).
-/

namespace EStateM

variable {ε σ α β : Type}

@[simp] theorem run_map_match (f : α → β) (x : EStateM ε σ α) (s : σ) :
    (f <$> x).run s =
      match x.run s with
      | .ok a t => .ok (f a) t
      | .error e t => .error e t :=
  rfl

/-- A program goes on from where its first part ended well. -/
theorem run_bind_of_ok {x : EStateM ε σ α} {s t : σ} {a : α} (first : x.run s = .ok a t)
    (f : α → EStateM ε σ β) : (x >>= f).run s = (f a).run t := by
  rw [run_bind, first]

/-- A program that faults in its first part does not go on. -/
theorem run_bind_of_error {x : EStateM ε σ α} {s t : σ} {e : ε} (first : x.run s = .error e t)
    (f : α → EStateM ε σ β) : (x >>= f).run s = .error e t := by
  rw [run_bind, first]

/-- Where the attempt and the clean-up end well, so do both together. -/
theorem run_tryFinally_of_ok {x : EStateM ε σ α} {y : EStateM ε σ β} {s t u : σ} {a : α} {b : β}
    (attempt : x.run s = .ok a t) (cleanUp : y.run t = .ok b u) :
    (tryFinally x y).run s = .ok a u := by
  have both : (tryFinally' x fun _ => y).run s = .ok (a, b) u := by
    simp only [run] at attempt cleanUp
    simp only [run, tryFinally', attempt, cleanUp]
  rw [tryFinally, run_map_match, both]

end EStateM

namespace Except

variable {ε ε' α β : Type}

theorem bind_eq_ok_iff {x : Except ε α} {f : α → Except ε β} {b : β} :
    (x >>= f) = .ok b ↔ ∃ a, x = .ok a ∧ f a = .ok b := by
  cases x with
  | error e => exact ⟨nofun, nofun⟩
  | ok a =>
      constructor
      · intro rest
        exact ⟨a, rfl, rest⟩
      · rintro ⟨_, ⟨⟩, rest⟩
        exact rest

theorem map_eq_ok_iff {x : Except ε α} {f : α → β} {b : β} :
    f <$> x = .ok b ↔ ∃ a, x = .ok a ∧ f a = b := by
  cases x with
  | error e => exact ⟨nofun, nofun⟩
  | ok a =>
      constructor
      · rintro ⟨⟩
        exact ⟨a, rfl, rfl⟩
      · rintro ⟨_, ⟨⟩, rfl⟩
        rfl

theorem mapError_eq_ok_iff {x : Except ε α} {f : ε → ε'} {a : α} :
    x.mapError f = .ok a ↔ x = .ok a := by
  cases x with
  | error e => exact ⟨nofun, nofun⟩
  | ok a =>
      constructor <;>
        · rintro ⟨⟩
          rfl

theorem bind_eq_error_iff {x : Except ε α} {f : α → Except ε β} {e : ε} :
    (x >>= f) = .error e ↔ x = .error e ∨ ∃ a, x = .ok a ∧ f a = .error e := by
  cases x with
  | error e' =>
      constructor
      · rintro ⟨⟩
        exact .inl rfl
      · rintro (⟨⟨⟩⟩ | ⟨a, ⟨⟩, _⟩)
        rfl
  | ok a =>
      constructor
      · intro failed
        exact .inr ⟨a, rfl, failed⟩
      · rintro (⟨⟨⟩⟩ | ⟨_, ⟨⟩, failed⟩)
        exact failed

theorem mapError_eq_error_iff {x : Except ε α} {f : ε → ε'} {e' : ε'} :
    x.mapError f = .error e' ↔ ∃ e, x = .error e ∧ f e = e' := by
  cases x with
  | error e =>
      constructor
      · rintro ⟨⟩
        exact ⟨e, rfl, rfl⟩
      · rintro ⟨_, ⟨⟩, rfl⟩
        rfl
  | ok a => exact ⟨nofun, nofun⟩

/-- Both fail, or both end well with results that are related. -/
inductive Agree (R : α → β → Prop) : Except ε α → Except ε' β → Prop
  | error {e : ε} {e' : ε'} : Agree R (.error e) (.error e')
  | ok {a : α} {b : β} (related : R a b) : Agree R (.ok a) (.ok b)

namespace Agree

variable {α' β' : Type} {R : α → β → Prop} {S : α' → β' → Prop} {x : Except ε α} {y : Except ε' β}

theorem refl (x : Except ε α) : Agree Eq x x := by
  cases x with
  | error e => exact .error
  | ok a => exact .ok rfl

/-- What goes on alike from related results agrees as a whole. -/
theorem bind {f : α → Except ε α'} {g : β → Except ε' β'} (first : Agree R x y)
    (rest : ∀ a b, x = .ok a → R a b → Agree S (f a) (g b)) : Agree S (x >>= f) (y >>= g) := by
  cases first with
  | error => exact .error
  | ok related => exact rest _ _ rfl related

theorem mapError {ε₁ ε₂ : Type} (f : ε → ε₁) (g : ε' → ε₂) (agree : Agree R x y) :
    Agree R (x.mapError f) (y.mapError g) := by
  cases agree with
  | error => exact .error
  | ok related => exact .ok related

/-- Programs agree if each of them ends well where the other one does. -/
theorem of_imp (there : ∀ a, x = .ok a → ∃ b, y = .ok b ∧ R a b)
    (back : ∀ b, y = .ok b → ∃ a, x = .ok a) : Agree R x y := by
  cases x with
  | ok a =>
      obtain ⟨b, rfl, related⟩ := there a rfl
      exact .ok related
  | error e =>
      cases y with
      | error e' => exact .error
      | ok b =>
          obtain ⟨a, ⟨⟩⟩ := back b rfl

theorem ok_iff {y : Except ε' α} (agree : Agree Eq x y) (a : α) : x = .ok a ↔ y = .ok a := by
  cases agree with
  | error => exact ⟨nofun, nofun⟩
  | ok related =>
      cases related
      constructor <;>
        · rintro ⟨⟩
          rfl

/-- Folds agree if their steps do. -/
theorem foldlM {γ : Type} {f : α → γ → Except ε α} {g : β → γ → Except ε' β}
    (step : ∀ a b c, R a b → Agree R (f a c) (g b c)) (l : List γ) {a : α} {b : β}
    (start : R a b) : Agree R (l.foldlM f a) (l.foldlM g b) := by
  induction l generalizing a b with
  | nil => exact .ok start
  | cons c l ih =>
      rw [List.foldlM_cons, List.foldlM_cons]
      exact (step a b c start).bind fun _ _ _ => ih

end Agree

/-- A fold that ends well keeps what each of its steps keeps. -/
theorem foldlM_keeps {P : β → Prop} {step : β → α → Except ε β}
    (keeps : ∀ b a b', P b → step b a = .ok b' → P b') {l : List α} {b b' : β} (start : P b)
    (folded : l.foldlM step b = .ok b') : P b' := by
  induction l generalizing b with
  | nil =>
      cases folded
      exact start
  | cons a l ih =>
      rw [List.foldlM_cons] at folded
      obtain ⟨middle, first, rest⟩ := bind_eq_ok_iff.mp folded
      exact ih (keeps b a middle start first) rest

end Except

namespace Uniprocessor.SimulationM

variable {α : Type}

theorem run_onKernel {op : KernelM α} {s : Simulation} {a : α} {k : Kernel}
    (ran : op.run s.kernel = .ok a k) :
    EStateM.run (onKernel op) s = .ok a { s with kernel := k } := by
  simp only [EStateM.run] at ran
  simp only [EStateM.run, onKernel, ran]

end Uniprocessor.SimulationM
