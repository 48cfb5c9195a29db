import Uniprocessor.Proofs.Text.Spacing
import Uniprocessor.Proofs.Workload.RoundTrip

/-!
Reading a text by what its lines say.

A line says its words, however they are spaced and whatever comment stands behind them
(`Says`). A text is read by what its lines say one after the other: lines that say nothing do
not count, nor do the numbers of the lines, as long as nothing goes wrong
(`ofText_agree`). The order in which a block makes its requests does not count either, since
they are sorted when it closes (`Block.Alike.finish`).
-/

namespace Uniprocessor.Workload

open Text (Spaced)
open Except (Agree)

/-! ### Lines -/

/-- The line says the words, and behind them a comment may stand. -/
inductive Says (ws : List Text) : Text → Prop
  | bare {laid : Text} (spaced : Spaced ws laid) (plain : .char '#' ∉ laid) : Says ws laid
  | commented {laid comment : Text} (spaced : Spaced ws laid) (plain : .char '#' ∉ laid) :
      Says ws (laid ++ .char '#' :: comment)

theorem says_iff {ws : List Text} {content : Text} :
    Says ws content ↔ lineWords content = ws := by
  constructor
  · rintro (⟨spaced, plain⟩ | ⟨spaced, plain⟩)
    all_goals
      have solid : ∀ c ∈ _, decide (c ≠ CodePoint.char '#') = true := fun c mem =>
        decide_eq_true fun (is : c = .char '#') => plain (is ▸ mem)
    · rw [lineWords, List.takeWhile_eq_self_iff.mpr solid, spaced.words_eq]
    · rw [lineWords, List.takeWhile_append_of_pos solid, List.takeWhile_cons_of_neg (by simp),
        List.append_nil, spaced.words_eq]
  · intro said
    have plain : .char '#' ∉ content.takeWhile (· ≠ .char '#') := by
      intro mem
      simpa using List.mem_takeWhile_imp mem
    have spaced : Spaced ws (content.takeWhile (· ≠ .char '#')) := Text.spaced_iff.mpr said
    -- The line is what stands before the first `#`, and from there on a comment.
    rw [← List.takeWhile_append_dropWhile (p := (· ≠ CodePoint.char '#')) (l := content)]
    cases behind : content.dropWhile (· ≠ .char '#') with
    | nil =>
        rw [List.append_nil]
        exact .bare spaced plain
    | cons c comment =>
        have stopped := List.head_dropWhile_not (p := (· ≠ CodePoint.char '#')) (l := content)
          (by rw [behind]; exact List.cons_ne_nil c comment)
        simp only [behind, List.head_cons] at stopped
        have begins : c = .char '#' := by simpa using stopped
        exact begins ▸ .commented spaced plain

instance (ws : List Text) (content : Text) : Decidable (Says ws content) :=
  decidable_of_iff _ says_iff.symm

/-! ### Statements -/

/-- What the lines of a text say, but for those that say nothing. -/
def statements (t : Text) : List (List Text) := ((Text.lines t).map lineWords).filter (· ≠ [])

/-- Takes statements one after the other, without numbering their lines. -/
def Draft.takeAll (d : Draft) (said : List (List Text)) : Except WorkloadError Draft :=
  said.foldlM (fun d words => d.addWords 0 words) d

theorem Draft.takeAll_append (d : Draft) (front back : List (List Text)) :
    d.takeAll (front ++ back) = d.takeAll front >>= fun e => e.takeAll back :=
  List.foldlM_append

theorem Draft.takeAll_cons (d : Draft) (words : List Text) (back : List (List Text)) :
    d.takeAll (words :: back) = d.addWords 0 words >>= fun e => e.takeAll back :=
  List.foldlM_cons

theorem Draft.takeAll_singleton (d : Draft) (words : List Text) :
    d.takeAll [words] = d.addWords 0 words := by
  rw [takeAll_cons]
  cases d.addWords 0 words <;> rfl

/-! ### Drafts that are alike -/

/-- The blocks say the same of the same process, but for their lines and the order of the
requests. -/
structure Block.Alike (b b' : Block) : Prop where
  pid : b.pid = b'.pid
  name : b.name = b'.name
  start : b.start = b'.start
  lifespan : b.lifespan = b'.lifespan
  priority : b.priority = b'.priority
  requests : b.requests.Perm b'.requests
  holds : ∀ q ∈ b.requests, 1 ≤ q.hold

structure Draft.Alike (d e : Draft) : Prop where
  processes : d.processes = e.processes
  ceilings : d.ceilings = e.ceilings
  block : Option.Rel Block.Alike d.block e.block

namespace Block

variable {b b' : Block}

theorem Alike.symm (alike : b.Alike b') : b'.Alike b where
  pid := alike.pid.symm
  name := alike.name.symm
  start := alike.start.symm
  lifespan := alike.lifespan.symm
  priority := alike.priority.symm
  requests := alike.requests.symm
  holds := fun q mem => alike.holds q (alike.requests.mem_iff.mpr mem)

/-- Whether a field can be filled depends on the field only. -/
theorem fill_agree {α : Type} {old old' : Option α} (same : old = old') (b b' : Block)
    (field : Field) (new : α) : Agree Eq (b.fill field old new) (b'.fill field old' new) := by
  subst same
  unfold fill
  split
  · exact .error
  · exact .ok rfl

theorem Alike.add (alike : b.Alike b') {detail : Detail} (valid : detail.Valid) :
    Agree Alike (b.add detail) (b'.add detail) := by
  cases detail with
  | name given =>
      refine (fill_agree alike.name b b' .name given).bind ?_
      rintro filled _ _ rfl
      exact .ok { alike with name := rfl }
  | start tick =>
      refine (fill_agree alike.start b b' .start tick).bind ?_
      rintro filled _ _ rfl
      exact .ok { alike with start := rfl }
  | lifespan ticks =>
      refine (fill_agree alike.lifespan b b' .lifespan ticks).bind ?_
      rintro filled _ _ rfl
      exact .ok { alike with lifespan := rfl }
  | priority level =>
      refine (fill_agree alike.priority b b' .priority level).bind ?_
      rintro filled _ _ rfl
      exact .ok { alike with priority := rfl }
  | acquire q =>
      refine .ok { alike with requests := alike.requests.append_right [q], holds := ?_ }
      intro i mem
      rcases List.mem_append.mp mem with old | new
      · exact alike.holds i old
      · rw [List.mem_singleton.mp new]
        exact valid.2.2

/-- Requests that are checked when sorted do not overlap. -/
theorem disjoint_of_checkRequests {pid lifespan : Int} {l : List Request}
    (positive : ∀ q ∈ l, 1 ≤ q.hold)
    (checked : checkRequests pid lifespan {} (Request.sort l) = .ok ()) :
    l.Pairwise Request.Disjoint := by
  have positive : ∀ q ∈ Request.sort l, 1 ≤ q.hold := fun q mem =>
    positive q (List.mem_mergeSort.mp mem)
  have apart := (apart_of_checkRequests positive checked).2.1
  refine (List.Perm.pairwise_iff Request.Disjoint.symm (List.mergeSort_perm l Request.atMost)).mp ?_
  exact apart.imp fun ended same => .inl (ended same)

/-- A block declares the same process in whatever order it makes its requests: the check lets
only such requests pass as have one sorted order. -/
theorem Alike.finish_eq (alike : b.Alike b') {spec : ProcessSpec} (finished : b.finish = .ok spec) :
    b'.finish = .ok spec := by
  unfold finish at finished ⊢
  rw [← alike.lifespan]
  split at finished
  · cases finished
  · rename_i ticks given
    obtain ⟨⟨⟩, checked, ⟨⟩⟩ := Except.bind_eq_ok_iff.mp finished
    have sorted := Request.sort_eq_of_perm alike.requests.symm
      (disjoint_of_checkRequests alike.holds checked) alike.holds
    simp only [sorted, ← alike.pid, ← alike.start, ← alike.priority, ← alike.name, checked]
    rfl

theorem Alike.finish (alike : b.Alike b') : Agree Eq b.finish b'.finish :=
  .of_imp (fun spec finished => ⟨spec, alike.finish_eq finished, rfl⟩)
    fun spec finished => ⟨spec, alike.symm.finish_eq finished⟩

end Block

/-! ### Statements in other words -/

/-- Both statements say the same: their keywords differ in the case of letters at most, or are
the two keywords for a priority. -/
inductive Reworded : List Text → List Text → Prop
  | same (words : List Text) : Reworded words words
  | keyword {k k' : Text} (same : Text.lower k = Text.lower k') (arguments : List Text) :
      Reworded (k :: arguments) (k' :: arguments)
  | priority {k k' : Text} (short : Text.lower k = "prio") (long : Text.lower k' = "priority")
      (arguments : List Text) : Reworded (k :: arguments) (k' :: arguments)
  | ceiling {k c c' : Text} (resource : Text.lower k = "resource")
      (same : Text.lower c = Text.lower c') (id level : Text) :
      Reworded [k, id, c, level] [k, id, c', level]

variable {k k' : Text} {arguments arguments' : List Text}

theorem Reworded.heading (reworded : Reworded (k :: arguments) (k' :: arguments')) :
    Agree Eq (Heading.read k arguments) (Heading.read k' arguments') := by
  cases reworded with
  | same => exact .refl _
  | keyword same =>
      unfold Heading.read
      rw [← same]
      split <;> first | exact .refl _ | exact .error
  | priority short long =>
      unfold Heading.read
      rw [short, long]
      exact .error
  | ceiling resource same id level =>
      unfold Heading.read
      rw [resource]
      simp only [same]
      exact .refl _

theorem onlyArgument_agree (keyword keyword' : String) (arguments : List Text) :
    Agree Eq (onlyArgument keyword arguments) (onlyArgument keyword' arguments) := by
  unfold onlyArgument
  split
  · exact .ok rfl
  · exact .error

theorem Reworded.detail (reworded : Reworded (k :: arguments) (k' :: arguments')) (pid : Int) :
    Agree Eq (Detail.read pid k arguments) (Detail.read pid k' arguments') := by
  cases reworded with
  | same => exact .refl _
  | keyword same =>
      unfold Detail.read
      simp only [← same]
      split <;> first | exact .refl _ | exact .error
  | priority short long =>
      unfold Detail.read
      simp only [short, long]
      refine (onlyArgument_agree _ _ _).bind ?_
      rintro word _ _ rfl
      exact .refl _
  | ceiling resource same id level =>
      unfold Detail.read
      simp only [resource]
      exact .error

theorem Draft.Alike.addWords {d e : Draft} (alike : d.Alike e) {words words' : List Text}
    (reworded : Reworded words words') (n m : Nat) :
    Agree Alike (d.addWords n words) (e.addWords m words') := by
  obtain ⟨specs, caps, open?⟩ := d
  obtain ⟨specs', caps', open?'⟩ := e
  obtain ⟨processes, ceilings, block⟩ := alike
  dsimp only at processes ceilings block
  subst processes ceilings
  match words, words', reworded with
  | [], [], _ => exact .ok ⟨rfl, rfl, block⟩
  | k :: arguments, k' :: arguments', reworded =>
      unfold Draft.addWords
      -- The reworded line is read alike, and what it does to drafts that are alike leaves them so.
      cases block with
      | none =>
          refine (reworded.heading.mapError _ _).bind ?_
          rintro (pid | ⟨resource, level⟩) _ _ rfl
          · dsimp only
            split
            · exact .error
            · exact .ok ⟨rfl, rfl, .some ⟨rfl, rfl, rfl, rfl, rfl, .refl _, nofun⟩⟩
          · exact .ok ⟨rfl, rfl, .none⟩
      | some alike =>
          dsimp only
          rw [← alike.pid]
          refine ((reworded.detail _).mapError _ _).bind ?_
          rintro (_ | detail) _ read rfl
          · refine (alike.finish.mapError _ _).bind ?_
            rintro spec _ _ rfl
            exact .ok ⟨rfl, rfl, .none⟩
          · have valid := (Detail.valid_of_read (Except.mapError_eq_ok_iff.mp read)).1
            refine ((alike.add valid).mapError _ _).bind ?_
            exact fun b b' _ alike => .ok ⟨rfl, rfl, .some alike⟩

/-! ### Texts -/

theorem Draft.Alike.takeAll {d e : Draft} (alike : d.Alike e) (said : List (List Text)) :
    Agree Alike (d.takeAll said) (e.takeAll said) :=
  .foldlM (fun _ _ words alike => alike.addWords (.same words) 0 0) said alike

theorem Draft.Alike.finish {d e : Draft} (alike : d.Alike e) : Agree Eq d.finish e.finish := by
  obtain ⟨specs, caps, open?⟩ := d
  obtain ⟨specs', caps', open?'⟩ := e
  obtain ⟨processes, ceilings, block⟩ := alike
  dsimp only at processes ceilings block
  subst processes ceilings
  cases block with
  | none => exact .ok rfl
  | some alike => exact .error

/-- Reading numbered lines goes by what they say. -/
theorem Draft.Alike.foldlM_addLine {d e : Draft} (alike : d.Alike e) (lines : List Text) (n : Nat) :
    Agree Alike ((lines.zipIdx n).foldlM Draft.addLine d)
      (e.takeAll ((lines.map lineWords).filter (· ≠ []))) := by
  induction lines generalizing d e n with
  | nil => exact .ok alike
  | cons line lines ih =>
      rw [List.zipIdx_cons, List.foldlM_cons, List.map_cons, addLine]
      by_cases empty : lineWords line = []
      · rw [List.filter_cons_of_neg (by simpa using empty), empty]
        exact ih alike (n + 1)
      · rw [List.filter_cons_of_pos (by simpa using empty), takeAll_cons]
        exact (alike.addWords (.same _) n 0).bind fun _ _ _ alike => ih alike (n + 1)

/-- Reads what the lines of a text say. -/
def ofStatements (said : List (List Text)) : Except WorkloadError Workload :=
  Draft.takeAll {} said >>= Draft.finish

theorem Draft.Alike.start : Alike {} {} := ⟨rfl, rfl, .none⟩

/-- A text is read by what its lines say. -/
theorem ofText_agree (t : Text) : Agree Eq (ofText t) (ofStatements (statements t)) :=
  (Draft.Alike.start.foldlM_addLine (Text.lines t) 1).bind fun _ _ _ alike => alike.finish

end Uniprocessor.Workload
