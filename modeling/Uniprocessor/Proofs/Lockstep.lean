import Uniprocessor.Proofs.Outcome

/-!
Two programs side by side.

Two programs run together from a pair of states if, where both end well, they
give the same answer and leave states that are related again
(`EStateM.Together`). Programs built alike from parts that run together run
together themselves (`Together.bind`). What one of them does alone must run
together with doing nothing (`Together.alone_bind`, `Together.both`). Where the
answers differ, or more is known of them, the two run alongside
(`EStateM.Alongside`). Nothing is said of faults; where it is known that no run
faults, nothing is lost.
-/

namespace EStateM

variable {ε σ α β : Type} {R : σ → σ → Prop} {s t : σ}

/-- Where both programs end well, they give the same answer and leave related
states. -/
def Together (R : σ → σ → Prop) (x y : EStateM ε σ α) (s t : σ) : Prop :=
  ∀ a b s' t', x.run s = .ok a s' → y.run t = .ok b t' → a = b ∧ R s' t'

/-- Where the program ends well, it answers `a` and leaves the state as it is. -/
def Reads (x : EStateM ε σ α) (s : σ) (a : α) : Prop :=
  ∀ b u, x.run s = .ok b u → b = a ∧ u = s

theorem Reads.of_run {x : EStateM ε σ α} {a : α} (ran : x.run s = .ok a s) : x.Reads s a := by
  intro b u ran'
  rw [ran] at ran'
  cases ran'
  exact ⟨rfl, rfl⟩

theorem reads_get : (get : EStateM ε σ σ).Reads s s := .of_run rfl

/-- A program that ends well did so in its first part, and went on from there. -/
theorem run_bind_eq_ok {x : EStateM ε σ α} {f : α → EStateM ε σ β} {b : β} {u : σ}
    (ran : (x >>= f).run s = .ok b u) : ∃ a m, x.run s = .ok a m ∧ (f a).run m = .ok b u := by
  rw [run_bind] at ran
  cases first : x.run s with
  | error e m =>
      rw [first] at ran
      cases ran
  | ok a m =>
      rw [first] at ran
      exact ⟨a, m, rfl, ran⟩

theorem run_tryFinally_eq_ok {x : EStateM ε σ α} {y : EStateM ε σ β} {a : α} {u : σ}
    (ran : (tryFinally x y).run s = .ok a u) :
    ∃ m b, x.run s = .ok a m ∧ y.run m = .ok b u := by
  rw [tryFinally, run_map_match] at ran
  simp only [run, tryFinally'] at ran ⊢
  cases attempt : x s with
  | error e m =>
      rw [attempt] at ran
      cases clean : y m <;> simp [clean] at ran
  | ok c m =>
      rw [attempt] at ran
      cases clean : y m with
      | error e v => simp [clean] at ran
      | ok b v =>
          simp only [clean, Result.ok.injEq] at ran
          obtain ⟨rfl, rfl⟩ := ran
          exact ⟨m, b, rfl, clean⟩

namespace Together

theorem pure (a : α) (related : R s t) :
    Together R (Pure.pure a : EStateM ε σ α) (Pure.pure a) s t := by
  rintro _ _ _ _ ⟨⟩ ⟨⟩
  exact ⟨rfl, related⟩

theorem throw_left (e : ε) (y : EStateM ε σ α) : Together R (throw e) y s t := nofun

theorem throw_right (x : EStateM ε σ α) (e : ε) : Together R x (throw e) s t := nofun

theorem modify {f g : σ → σ} (related : R (f s) (g t)) :
    Together R (modify f : EStateM ε σ Unit) (modify g) s t := by
  rintro _ _ _ _ ⟨⟩ ⟨⟩
  exact ⟨rfl, related⟩

/-- What follows may compare less than the first parts have in common, and it may matter how
they have run. -/
theorem bind_run {R' : σ → σ → Prop} {x y : EStateM ε σ α} {f g : α → EStateM ε σ β}
    (first : Together R' x y s t)
    (rest : ∀ a s' t', x.run s = .ok a s' → y.run t = .ok a t' → R' s' t' →
      Together R (f a) (g a) s' t') : Together R (x >>= f) (y >>= g) s t := by
  intro b c u v left right
  obtain ⟨a, s', ran, left⟩ := run_bind_eq_ok left
  obtain ⟨_, t', ran', right⟩ := run_bind_eq_ok right
  obtain ⟨rfl, related⟩ := first _ _ _ _ ran ran'
  exact rest a s' t' ran ran' related b c u v left right

theorem bind {x y : EStateM ε σ α} {f g : α → EStateM ε σ β} (first : Together R x y s t)
    (rest : ∀ a s' t', R s' t' → Together R (f a) (g a) s' t') :
    Together R (x >>= f) (y >>= g) s t :=
  first.bind_run fun a s' t' _ _ => rest a s' t'

/-- What is read may differ. -/
theorem read {x y : EStateM ε σ α} {f g : α → EStateM ε σ β} {a b : α} (left : x.Reads s a)
    (right : y.Reads t b) (rest : Together R (f a) (g b) s t) :
    Together R (x >>= f) (y >>= g) s t := by
  intro c d u v whole whole'
  obtain ⟨_, _, first, ran⟩ := run_bind_eq_ok whole
  obtain ⟨_, _, first', ran'⟩ := run_bind_eq_ok whole'
  obtain ⟨rfl, rfl⟩ := left _ _ first
  obtain ⟨rfl, rfl⟩ := right _ _ first'
  exact rest c d u v ran ran'

theorem tryFinally {x y : EStateM ε σ α} {f g : EStateM ε σ β} (attempt : Together R x y s t)
    (cleanUp : ∀ s' t', R s' t' → Together R f g s' t') :
    Together R (tryFinally x f) (tryFinally y g) s t := by
  intro a b u v left right
  obtain ⟨s', c, ran, cleaned⟩ := run_tryFinally_eq_ok left
  obtain ⟨t', d, ran', cleaned'⟩ := run_tryFinally_eq_ok right
  obtain ⟨rfl, related⟩ := attempt _ _ _ _ ran ran'
  exact ⟨rfl, (cleanUp s' t' related _ _ _ _ cleaned cleaned').2⟩

theorem mono {R' : σ → σ → Prop} {x y : EStateM ε σ α} (weaker : ∀ s t, R s t → R' s t)
    (together : Together R x y s t) : Together R' x y s t := by
  intro a b u v ran ran'
  obtain ⟨same, related⟩ := together a b u v ran ran'
  exact ⟨same, weaker u v related⟩

/-! ### What one side does alone -/

theorem alone_bind {x : EStateM ε σ α} {f : α → EStateM ε σ β} {a : α} {b : β}
    (first : Together R (Pure.pure a) x s t)
    (rest : ∀ t', R s t' → Together R (Pure.pure b) (f a) s t') :
    Together R (Pure.pure b) (x >>= f) s t := by
  rintro _ c _ v ⟨⟩ whole
  obtain ⟨_, t', ran', ran⟩ := run_bind_eq_ok whole
  obtain ⟨rfl, related⟩ := first _ _ _ _ rfl ran'
  exact rest t' related _ _ _ _ rfl ran

theorem alone_read {x : EStateM ε σ α} {f : α → EStateM ε σ β} {a : α} {b : β}
    (reads : x.Reads t a) (rest : Together R (Pure.pure b) (f a) s t) :
    Together R (Pure.pure b) (x >>= f) s t := by
  rintro _ c _ v ⟨⟩ whole
  obtain ⟨_, _, first, ran⟩ := run_bind_eq_ok whole
  obtain ⟨rfl, rfl⟩ := reads _ _ first
  exact rest _ _ _ _ rfl ran

/-- Where each side does something alone, both have run together. -/
theorem both {x y : EStateM ε σ α} {a : α} (left : Together R (Pure.pure a) x s s)
    (right : Together R (Pure.pure a) y s t) (join : ∀ u v, R s u → R s v → R u v) :
    Together R x y s t := by
  intro b c u v ran ran'
  obtain ⟨rfl, related⟩ := left _ _ _ _ rfl ran
  obtain ⟨rfl, related'⟩ := right _ _ _ _ rfl ran'
  exact ⟨rfl, join u v related related'⟩

end Together

/-! ### Answers that differ -/

/-- Where both programs end well, `Q` holds of the answers and of the states that they
leave. -/
def Alongside (Q : α → β → σ → σ → Prop) (x : EStateM ε σ α) (y : EStateM ε σ β) (s t : σ) :
    Prop :=
  ∀ a b s' t', x.run s = .ok a s' → y.run t = .ok b t' → Q a b s' t'

namespace Alongside

variable {γ δ : Type} {P : α → β → σ → σ → Prop} {Q : γ → δ → σ → σ → Prop}

theorem of_together {x y : EStateM ε σ α} (together : Together R x y s t) :
    Alongside (fun a b u v => a = b ∧ R u v) x y s t := together

theorem pure {c : γ} {d : δ} (holds : Q c d s t) :
    Alongside Q (Pure.pure c : EStateM ε σ γ) (Pure.pure d) s t := by
  rintro _ _ _ _ ⟨⟩ ⟨⟩
  exact holds

theorem throw_left (e : ε) (y : EStateM ε σ δ) : Alongside Q (throw e) y s t := nofun

theorem bind {x : EStateM ε σ α} {y : EStateM ε σ β} {f : α → EStateM ε σ γ}
    {g : β → EStateM ε σ δ} (first : Alongside P x y s t)
    (rest : ∀ a b s' t', P a b s' t' → Alongside Q (f a) (g b) s' t') :
    Alongside Q (x >>= f) (y >>= g) s t := by
  intro c d u v left right
  obtain ⟨a, s', ran, left⟩ := run_bind_eq_ok left
  obtain ⟨b, t', ran', right⟩ := run_bind_eq_ok right
  exact rest a b s' t' (first _ _ _ _ ran ran') c d u v left right

theorem read {x : EStateM ε σ α} {y : EStateM ε σ β} {f : α → EStateM ε σ γ}
    {g : β → EStateM ε σ δ} {a : α} {b : β} (left : x.Reads s a) (right : y.Reads t b)
    (rest : Alongside Q (f a) (g b) s t) : Alongside Q (x >>= f) (y >>= g) s t := by
  refine .bind (P := fun a' b' u v => (a' = a ∧ u = s) ∧ b' = b ∧ v = t)
    (fun a' b' u v ran ran' => ⟨left a' u ran, right b' v ran'⟩) ?_
  rintro _ _ _ _ ⟨⟨rfl, rfl⟩, rfl, rfl⟩
  exact rest

/-- What follows may compare less, or more, than the first parts have in common. -/
theorem after {x y : EStateM ε σ α} {f : α → EStateM ε σ γ} {g : α → EStateM ε σ δ}
    (first : Together R x y s t) (rest : ∀ a s' t', R s' t' → Alongside Q (f a) (g a) s' t') :
    Alongside Q (x >>= f) (y >>= g) s t := by
  refine bind (of_together first) ?_
  rintro a _ s' t' ⟨rfl, related⟩
  exact rest a s' t' related

theorem mono {Q' : γ → δ → σ → σ → Prop} {x : EStateM ε σ γ} {y : EStateM ε σ δ}
    (weaker : ∀ c d u v, Q c d u v → Q' c d u v) (alongside : Alongside Q x y s t) :
    Alongside Q' x y s t :=
  fun c d u v ran ran' => weaker c d u v (alongside c d u v ran ran')

end Alongside

end EStateM
