import Mathlib.Data.List.Induction
import Uniprocessor.Proofs.Text.Cuts
import Uniprocessor.Proofs.Workload.Validity

/-!
Where a text fails to be a workload.

Reading fails at the first line that the draft rejects (`Draft.Rejects`), with the number of
that line or of the line that opened the block. What follows that line does not matter any
more, and the lines before it make a workload, unless a block of theirs is still open
(`error_placed`). Only a text whose lines are all read can fail for its end (`LeftOpen`).
-/

namespace Uniprocessor.Workload

open WorkloadError (Cause)
open Text (WholeLines)

/-! ### A line that is rejected -/

/-- How a line of number `n` is refused, and with which error. -/
inductive Draft.Rejects (d : Draft) (n : Nat) : List Text → WorkloadError → Prop
  | heading {word : Text} {arguments : List Text} {cause : Cause} (outside : d.block = none)
      (read : Heading.read word arguments = .error cause) :
      d.Rejects n (word :: arguments) ⟨some n, cause⟩
  | duplicate {word : Text} {arguments : List Text} {pid : Int} (outside : d.block = none)
      (read : Heading.read word arguments = .ok (.process pid))
      (known : pid ∈ d.processes.map (·.pid)) :
      d.Rejects n (word :: arguments) ⟨some n, .duplicateProcess pid⟩
  | detail {word : Text} {arguments : List Text} {b : Block} {cause : Cause}
      (inside : d.block = some b) (read : Detail.read b.pid word arguments = .error cause) :
      d.Rejects n (word :: arguments) ⟨some n, cause⟩
  | change {word : Text} {arguments : List Text} {b : Block} {detail : Detail} {cause : Cause}
      (inside : d.block = some b) (read : Detail.read b.pid word arguments = .ok (some detail))
      (change : b.add detail = .error cause) : d.Rejects n (word :: arguments) ⟨some n, cause⟩
  | block {word : Text} {arguments : List Text} {b : Block} {cause : Cause}
      (inside : d.block = some b) (read : Detail.read b.pid word arguments = .ok none)
      (finished : b.finish = .error cause) :
      d.Rejects n (word :: arguments) ⟨some b.line, cause⟩

theorem Draft.rejects_of_addWords {d : Draft} {n : Nat} {words : List Text} {e : WorkloadError}
    (failed : d.addWords n words = .error e) : d.Rejects n words e := by
  cases words with
  | nil => cases failed
  | cons word arguments =>
      unfold Draft.addWords at failed
      dsimp only at failed
      -- What can go wrong differs outside and inside a block.
      cases block : d.block with
      | none =>
          rw [block] at failed
          rcases Except.bind_eq_error_iff.mp failed with read | ⟨heading, read, failed⟩
          · obtain ⟨cause, wrong, rfl⟩ := Except.mapError_eq_error_iff.mp read
            exact .heading block wrong
          · have read := Except.mapError_eq_ok_iff.mp read
            cases heading with
            | process pid =>
                dsimp only at failed
                split at failed
                · rename_i known
                  cases failed
                  exact .duplicate block read (any_pid_iff.mp known)
                · cases failed
            | ceiling resource level => cases failed
      | some b =>
          rw [block] at failed
          rcases Except.bind_eq_error_iff.mp failed with read | ⟨detail, read, failed⟩
          · obtain ⟨cause, wrong, rfl⟩ := Except.mapError_eq_error_iff.mp read
            exact .detail block wrong
          · have read := Except.mapError_eq_ok_iff.mp read
            cases detail with
            | none =>
                rcases Except.bind_eq_error_iff.mp failed with finished | ⟨spec, _, ⟨⟩⟩
                obtain ⟨cause, wrong, rfl⟩ := Except.mapError_eq_error_iff.mp finished
                exact .block block read wrong
            | some detail =>
                rcases Except.bind_eq_error_iff.mp failed with change | ⟨b', _, ⟨⟩⟩
                obtain ⟨cause, wrong, rfl⟩ := Except.mapError_eq_error_iff.mp change
                exact .change block read wrong

/-! ### Where errors stand -/

/-- The block that is open after `n` lines was opened by one of them. -/
def Draft.Placed (d : Draft) (n : Nat) : Prop := ∀ b, d.block = some b → 1 ≤ b.line ∧ b.line ≤ n

theorem Draft.Adds.placed {d d' : Draft} {n : Nat} {words : List Text}
    (adds : d.Adds (n + 1) words d') (placed : d.Placed n) : d'.Placed (n + 1) := by
  cases adds with
  | blank | caps outside read =>
      intro b inside
      have line := placed b inside
      exact ⟨line.1, by omega⟩
  | opens outside read new =>
      rintro b ⟨⟩
      exact ⟨Nat.succ_pos n, Nat.le_refl _⟩
  | closes inside read finished => nofun
  | tells inside read change =>
      rintro b ⟨⟩
      have line := placed _ inside
      rw [(Block.origin_add change).2]
      exact ⟨line.1, by omega⟩

/-- A block that is whole fails for something else than not being closed. -/
theorem Block.finish_ne_unclosed {b : Block} {cause : Cause} (failed : b.finish = .error cause)
    (pid : Int) : cause ≠ .unclosed pid := by
  have checks : ∀ lifespan ends l, Block.checkRequests b.pid lifespan ends l = .error cause →
      cause ≠ .unclosed pid := by
    intro lifespan ends l failed
    induction l generalizing ends with
    | nil => cases failed
    | cons q later ih =>
        unfold Block.checkRequests at failed
        split at failed
        · cases failed
          rintro ⟨⟩
        · split at failed
          · cases failed
            rintro ⟨⟩
          · exact ih _ failed
  unfold Block.finish at failed
  split at failed
  · cases failed
    rintro ⟨⟩
  · rcases Except.bind_eq_error_iff.mp failed with checked | ⟨_, _, ⟨⟩⟩
    exact checks _ _ _ checked

theorem Draft.Rejects.placed {d : Draft} {n : Nat} {words : List Text} {e : WorkloadError}
    (rejects : d.Rejects (n + 1) words e) (placed : d.Placed n) :
    ∃ line, e.line = some line ∧ 1 ≤ line ∧ line ≤ n + 1 := by
  cases rejects with
  | block inside read finished =>
      have line := placed _ inside
      exact ⟨_, rfl, line.1, by omega⟩
  | _ => exact ⟨n + 1, rfl, by omega, Nat.le_refl _⟩

/-- A line is blamed for a block that is not closed where another one is opened inside it. -/
theorem Draft.Rejects.line_of_unclosed {d : Draft} {n : Nat} {words : List Text} {line : Option Nat}
    {pid : Int} (rejects : d.Rejects n words ⟨line, .unclosed pid⟩) : line = some n := by
  cases rejects with
  | block inside read finished => exact absurd rfl (Block.finish_ne_unclosed finished pid)
  | _ => rfl

/-! ### The lines of a text -/

/-- What lines amount to, before anything is said of their end. -/
def draftOf (lines : List Text) : Except WorkloadError Draft :=
  (lines.zipIdx 1).foldlM Draft.addLine {}

theorem ofLines_eq_bind (lines : List Text) : ofLines lines = draftOf lines >>= Draft.finish := rfl

theorem draftOf_append (front back : List Text) :
    draftOf (front ++ back) = draftOf front >>= fun d =>
      (back.zipIdx (1 + front.length)).foldlM Draft.addLine d := by
  rw [draftOf, List.zipIdx_append, List.foldlM_append]
  rfl

theorem draftOf_concat_eq_ok_iff {front : List Text} {line : Text} {d : Draft} :
    draftOf (front ++ [line]) = .ok d ↔
      ∃ d₀, draftOf front = .ok d₀ ∧ d₀.addLine (line, 1 + front.length) = .ok d := by
  rw [draftOf_append, Except.bind_eq_ok_iff]
  simp

/-- The lines before others are read if all of them are. -/
theorem draftOf_of_append {front back : List Text} {d : Draft}
    (read : draftOf (front ++ back) = .ok d) : ∃ d₀, draftOf front = .ok d₀ := by
  rw [draftOf_append] at read
  obtain ⟨d₀, first, _⟩ := Except.bind_eq_ok_iff.mp read
  exact ⟨d₀, first⟩

theorem placed_draftOf {lines : List Text} {d : Draft} (read : draftOf lines = .ok d) :
    d.Placed lines.length := by
  induction lines using List.reverseRecOn generalizing d with
  | nil =>
      cases read
      nofun
  | append_singleton front line ih =>
      obtain ⟨d₀, first, added⟩ := draftOf_concat_eq_ok_iff.mp read
      rw [Nat.add_comm] at added
      rw [List.length_append]
      exact (Draft.addWords_eq_ok_iff.mp added).placed (ih first)

/-- Lines that are not all read have a first one that is rejected. -/
theorem exists_rejected {lines : List Text} {e : WorkloadError}
    (failed : draftOf lines = .error e) :
    ∃ front line back d, lines = front ++ line :: back ∧ draftOf front = .ok d ∧
      d.addLine (line, 1 + front.length) = .error e := by
  induction lines using List.reverseRecOn with
  | nil => cases failed
  | append_singleton front line ih =>
      rw [draftOf_append] at failed
      rcases Except.bind_eq_error_iff.mp failed with early | ⟨d, first, here⟩
      · obtain ⟨front', line', back, d, rfl, read, rejected⟩ := ih early
        exact ⟨front', line', back ++ [line], d, by simp, read, rejected⟩
      · refine ⟨front, line, [], d, rfl, first, ?_⟩
        simpa using here

/-- A rejected line decides, whatever comes behind it. -/
theorem ofLines_of_rejected {front back : List Text} {line : Text} {d : Draft} {e : WorkloadError}
    (read : draftOf front = .ok d) (rejected : d.addLine (line, 1 + front.length) = .error e) :
    ofLines (front ++ line :: back) = .error e := by
  have failed : draftOf (front ++ line :: back) = .error e := by
    rw [draftOf_append, List.zipIdx_cons]
    exact Except.bind_eq_error_iff.mpr
      (.inr ⟨d, read, Except.bind_eq_error_iff.mpr (.inl rejected)⟩)
  rw [ofLines_eq_bind, failed]
  rfl

/-! ### The end of a text -/

/-- All lines of the text are read, but then a block is still open: the error at the end. -/
def LeftOpen (t : Text) (e : WorkloadError) : Prop :=
  ∃ d b, draftOf (Text.lines t) = .ok d ∧ d.block = some b ∧ e = ⟨some b.line, .unclosed b.pid⟩

theorem LeftOpen.failed {t : Text} {e : WorkloadError} (leftOpen : LeftOpen t e) :
    ofText t = .error e := by
  obtain ⟨d, b, read, inside, rfl⟩ := leftOpen
  rw [ofText, ofLines_eq_bind, read]
  show d.finish = _
  rw [Draft.finish, inside]

/-- A text whose lines are all read is a workload, or its last block is left open. -/
theorem parsed_or_leftOpen {t : Text} {d : Draft} (read : draftOf (Text.lines t) = .ok d) :
    (∃ w, ofText t = .ok w) ∨
      ∃ b, d.block = some b ∧ LeftOpen t ⟨some b.line, .unclosed b.pid⟩ := by
  cases block : d.block with
  | none =>
      refine .inl ⟨⟨d.processes, d.ceilings⟩, ?_⟩
      rw [ofText, ofLines_eq_bind, read]
      show d.finish = _
      rw [Draft.finish, block]
  | some b => exact .inr ⟨b, rfl, d, b, read, block, rfl⟩

/-! ### The result -/

/-- The lines up to a rejected one decide: they fail as the text does, none of them can be
spared, and however they go on, the error stays. -/
theorem decided_of_rejected {t line : Text} {front back : List Text} {d : Draft}
    {e : WorkloadError} (is : Text.lines t = front ++ line :: back)
    (first : draftOf front = .ok d) (rejected : d.addLine (line, 1 + front.length) = .error e) :
    ∃ p, WholeLines p t ∧ ofText p = .error e ∧
      (∀ q, WholeLines q t → (Text.lines q).length < (Text.lines p).length →
        (∃ w, ofText q = .ok w) ∨ ∃ e', e' ≠ e ∧ ofText q = .error e' ∧ LeftOpen q e') ∧
      ∀ t', Text.lines p <+: Text.lines t' → ofText t' = .error e := by
  have stays : ∀ more, ofLines (front ++ line :: more) = .error e := fun more =>
    ofLines_of_rejected first rejected
  obtain ⟨p, whole, lines⟩ := Text.exists_wholeLines t (front.length + 1)
  have lines : Text.lines p = front ++ [line] := by
    rw [lines, is, List.take_length_add_append]
    rfl
  refine ⟨p, whole, ?_, fun q shorter less => ?_, fun t' further => ?_⟩
  · rw [ofText, lines]
    exact stays []
  · -- a shorter text ends before the rejected line
    have among : Text.lines q <+: front := by
      refine List.prefix_of_prefix_length_le (is ▸ shorter.isPrefix_lines)
        (List.prefix_append front _) ?_
      rw [lines, List.length_append] at less
      exact Nat.lt_succ_iff.mp less
    obtain ⟨others, rfl⟩ := among
    obtain ⟨d', read'⟩ := draftOf_of_append first
    rcases parsed_or_leftOpen read' with parsed | ⟨b, inside, leftOpen⟩
    · exact .inl parsed
    · refine .inr ⟨_, ?_, leftOpen.failed, leftOpen⟩
      rintro rfl
      have here := (Draft.rejects_of_addWords rejected).line_of_unclosed
      have before := (placed_draftOf read' b inside).2
      rw [List.length_append, Option.some_inj] at here
      omega
  · obtain ⟨more, further⟩ := further
    rw [ofText, ← further, lines, List.append_assoc]
    exact stays more

/-- An error names a line of the text. It is the one at the end of the text, or it is decided
by the first lines: a text of these fails in the same way and no shorter one does, since all
its lines are read; and however these lines go on, the error stays. -/
theorem error_placed {t : Text} {e : WorkloadError} (failed : ofText t = .error e) :
    (∃ n, e.line = some n ∧ 1 ≤ n ∧ n ≤ (Text.lines t).length) ∧
      (LeftOpen t e ∨ ∃ p, WholeLines p t ∧ ofText p = .error e ∧
        (∀ q, WholeLines q t → (Text.lines q).length < (Text.lines p).length →
          (∃ w, ofText q = .ok w) ∨ ∃ e', e' ≠ e ∧ ofText q = .error e' ∧ LeftOpen q e') ∧
        ∀ t', Text.lines p <+: Text.lines t' → ofText t' = .error e) := by
  cases read : draftOf (Text.lines t) with
  | ok d =>
      rcases parsed_or_leftOpen read with ⟨w, parsed⟩ | ⟨b, inside, leftOpen⟩
      · rw [failed] at parsed
        cases parsed
      · cases failed.symm.trans leftOpen.failed
        exact ⟨⟨b.line, rfl, placed_draftOf read b inside⟩, .inl leftOpen⟩
  | error e' =>
      obtain ⟨front, line, back, d, is, first, rejected⟩ := exists_rejected read
      have fails : ofText t = .error e' := by
        rw [ofText, is]
        exact ofLines_of_rejected first rejected
      cases failed.symm.trans fails
      have rejects := Draft.rejects_of_addWords rejected
      rw [Nat.add_comm] at rejects
      have length : (Text.lines t).length = front.length + (back.length + 1) := by simp [is]
      obtain ⟨n, at_, low, high⟩ := rejects.placed (placed_draftOf first)
      exact ⟨⟨n, at_, low, by omega⟩, .inr (decided_of_rejected is first rejected)⟩

/-- A block whose third line gives a word for a number, and has no lifespan either. -/
def mistyped : Text := Text.ofString "process 1 \x7b\n name late\n start soon\n\x7d\n"

theorem error_placed_mistyped :
    ofText mistyped = .error ⟨some 3, .notInteger .start "soon"⟩ ∧
      ∃ p, WholeLines p mistyped ∧ ofText p = .error ⟨some 3, .notInteger .start "soon"⟩ ∧
        (∀ q, WholeLines q mistyped → (Text.lines q).length < (Text.lines p).length →
          (∃ w, ofText q = .ok w) ∨ ∃ e', e' ≠ ⟨some 3, .notInteger .start "soon"⟩ ∧
            ofText q = .error e' ∧ LeftOpen q e') ∧
        ∀ t', Text.lines p <+: Text.lines t' →
          ofText t' = .error ⟨some 3, .notInteger .start "soon"⟩ := by
  have failed : ofText mistyped = .error ⟨some 3, .notInteger .start "soon"⟩ := by decide +kernel
  refine ⟨failed, (error_placed failed).2.resolve_left ?_⟩
  rintro ⟨d, b, _, _, same⟩
  cases congrArg (·.cause) same

end Uniprocessor.Workload
