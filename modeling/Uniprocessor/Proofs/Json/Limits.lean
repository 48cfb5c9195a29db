import Uniprocessor.Json.Reader
import Uniprocessor.Proofs.Outcome

/-!
Texts that are too much for the reader of JSON.

Two of the faults that the reader finds are no faults in the form of a text: a whole number with
too many digits, and a bracket within too many others. The text accounts for them
(`ofUnmarked_fault`): somewhere in it stand that many digits in a row, or it opens more brackets
than may be open at a time. All other texts are read or malformed (`excessive_of_fault`).
-/

namespace Uniprocessor.Json

variable {α β : Type} {room : Nat} {t t' rest : Text} {fault : Fault}

def isOpening (c : CodePoint) : Bool := c = .char '[' || c = .char '\x7b'

/-- Why the reader of a text gives up, with room for so many brackets more. -/
inductive Fault.Explained (room : Nat) (t : Text) : Fault → Prop where
  | malformed (cause : Cause) (left : Nat) : Explained room t (.malformed cause left)
  | digits {ds : Text} (many : Text.digitLimit < ds.length) (row : ds <:+: t)
      (digits : ∀ c ∈ ds, isDigit c) : Explained room t (.tooManyDigits ds.length)
  | brackets (bracket : Bracket) (many : room < t.countP isOpening) :
      Explained room t (.tooDeep bracket)

/-- More digits in a row than a number may have, or more brackets than may be open at a time. -/
def Excessive (t : Text) : Prop :=
  (∃ ds, ds <:+: t ∧ (∀ c ∈ ds, isDigit c) ∧ Text.digitLimit < ds.length) ∨
    depthLimit < t.countP isOpening

theorem Fault.Explained.within (explained : fault.Explained room t') (within : t' <:+ t) :
    fault.Explained room t := by
  cases explained with
  | malformed cause left => exact .malformed cause left
  | digits many row digits => exact .digits many (row.trans within.isInfix) digits
  | brackets bracket many =>
      exact .brackets bracket (Nat.lt_of_lt_of_le many within.sublist.countP_le)

/-- Inside a bracket there is room for one less. -/
theorem Fault.Explained.opened {c : CodePoint} (opening : isOpening c)
    (explained : fault.Explained room t) : fault.Explained (room + 1) (c :: t) := by
  cases explained with
  | malformed cause left => exact .malformed cause left
  | digits many row digits => exact .digits many (row.trans (List.suffix_cons c t).isInfix) digits
  | brackets bracket many =>
      refine .brackets bracket ?_
      rw [List.countP_cons_of_pos opening]
      exact Nat.succ_lt_succ many

/-- Something is read from the front of the text, or the text explains why not. -/
def Reads (room : Nat) (t : Text) : Except Fault (α × Text) → Prop
  | .ok (_, rest) => rest <:+ t
  | .error fault => fault.Explained room t

namespace Reads

theorem missing (cause : Cause) :
    Reads room t (Json.missing cause rest : Except Fault (α × Text)) :=
  .malformed cause _

theorem within {x : Except Fault (α × Text)} (reads : Reads room t' x) (within : t' <:+ t) :
    Reads room t x := by
  cases x with
  | error fault => exact Fault.Explained.within reads within
  | ok r => exact List.IsSuffix.trans reads within

theorem done (a : α) : Reads room t (pure (a, t) : Except Fault (α × Text)) := List.suffix_rfl

theorem opened {x : Except Fault (α × Text)} {c : CodePoint} (opening : isOpening c)
    (reads : Reads room t x) : Reads (room + 1) (c :: t) x := by
  cases x with
  | error fault => exact Fault.Explained.opened opening reads
  | ok r => exact List.IsSuffix.trans reads (List.suffix_cons c t)

/-- What is read next is read from what is left. -/
theorem bind {x : Except Fault (α × Text)} {next : α × Text → Except Fault (β × Text)}
    (first : Reads room t x) (later : ∀ a rest, Reads room rest (next (a, rest))) :
    Reads room t (x >>= next) := by
  cases x with
  | error fault => exact first
  | ok r => exact (later r.1 r.2).within first

end Reads

theorem skipSpace_suffix (t : Text) : skipSpace t <:+ t := List.dropWhile_suffix _

theorem suffix_cons_cons (c d : CodePoint) (t : Text) : t <:+ c :: d :: t :=
  List.suffix_append [c, d] t

/-! ### Strings -/

theorem unit?_suffix {n : Nat} (read : unit? t = some (n, rest)) : rest <:+ t := by
  unfold unit? at read
  split at read
  · rename_i a b c d e more
    simp only [Option.bind_eq_bind, Option.bind_eq_some_iff, Option.pure_def, Option.some.injEq,
      Prod.mk.injEq] at read
    obtain ⟨_, _, _, _, _, _, _, _, _, rfl⟩ := read
    exact List.suffix_append [CodePoint.char a, .char b, .char c, .char d] _
  · cases read

theorem reads_unicodePoint (t : Text) : Reads room t (unicodePoint t) := by
  unfold unicodePoint
  split
  · exact .malformed _ _
  · rename_i high rest read
    have behind := unit?_suffix read
    split
    · rename_i more _
      split
      · exact behind
      · split
        · exact .malformed _ _
        · rename_i low rest' read'
          have behind' : rest' <:+ t :=
            (unit?_suffix read').trans ((suffix_cons_cons _ _ more).trans behind)
          split
          · exact behind'
          · exact behind
    · exact behind

theorem reads_stringTail (left fuel : Nat) (t done : Text) :
    Reads room t (stringTail left fuel t done) := by
  fun_induction stringTail left fuel t done with
  | case1 => exact .malformed _ _
  | case2 => exact .malformed _ _
  | case3 => exact List.suffix_cons _ _
  | case4 => exact .malformed _ _
  | case5 fuel rest done ih =>
      exact ((reads_unicodePoint rest).bind ih).within (suffix_cons_cons _ _ rest)
  | case6 fuel c rest done _ e _ ih => exact ih.within (suffix_cons_cons _ _ rest)
  | case7 => exact .missing _
  | case8 => exact .missing _
  | case9 fuel c rest done _ _ _ _ _ ih => exact ih.within (List.suffix_cons c rest)

theorem reads_string (t : Text) : Reads room t (string t) := reads_stringTail _ _ t []

/-! ### Numbers -/

theorem fraction_suffix (t : Text) : (fraction t).2 <:+ t := by
  unfold fraction
  split
  · split
    · exact (List.dropWhile_suffix _).trans (List.suffix_cons _ _)
    · exact List.suffix_rfl
  · exact List.suffix_rfl

theorem exponent?_suffix (t : Text) : (exponent? t).2 <:+ t := by
  unfold exponent?
  dsimp only
  split
  · split
    · split
      · split
        · exact List.suffix_rfl
        · exact (List.dropWhile_suffix _).trans (suffix_cons_cons _ _ _)
      · split
        · exact List.suffix_rfl
        · exact (List.dropWhile_suffix _).trans (suffix_cons_cons _ _ _)
      · split
        · exact List.suffix_rfl
        · exact (List.dropWhile_suffix _).trans (List.suffix_cons _ _)
    · exact List.suffix_rfl
  · exact List.suffix_rfl

/-- The digits of a whole number stand in a row. -/
theorem reads_number (negative : Bool) (start t : Text) :
    Reads room t (number negative start t) := by
  unfold number
  extract_lets whole
  have row : whole <+: t ∧ ∀ c ∈ whole, isDigit c := by
    unfold whole
    split
    · exact ⟨List.prefix_append [CodePoint.char '0'] _, by decide⟩
    · exact ⟨List.takeWhile_prefix _, fun c mem => List.all_eq_true.mp List.all_takeWhile c mem⟩
  split
  · exact .missing _
  · have behind := (exponent?_suffix _).trans
      ((fraction_suffix _).trans (List.drop_suffix whole.length t))
    dsimp only
    split
    · split
      · rename_i many
        exact .digits many row.1.isInfix row.2
      · exact behind
    · exact behind

/-! ### Values -/

theorem reads_scalar (t : Text) : Reads room t (scalar t) := by
  unfold scalar
  extract_lets words
  split
  · rename_i found is
    obtain ⟨w, _, read⟩ := List.exists_of_findSome?_eq_some is
    obtain ⟨rest, behind, rfl⟩ := Option.map_eq_some_iff.mp read
    unfold behind? at behind
    split at behind
    · cases behind
      exact List.drop_suffix _ t
    · cases behind
  · split
    · exact (reads_number true _ _).within (List.suffix_cons _ _)
    · exact reads_number false t t

theorem suffix_of_skipSpace {c : CodePoint} (skipped : skipSpace t = c :: rest) : rest <:+ t :=
  (List.suffix_cons c rest).trans (skipped ▸ skipSpace_suffix t)

section Step

/-! What is read with one step more, if what is read with the steps that are left is. -/

variable {fuel : Nat} (readsValue : ∀ room t, Reads room t (value fuel room t))
  (readsItems : ∀ room t, Reads room t (items fuel room t))
  (readsFields : ∀ room t, Reads room t (fields fuel room t))

include readsItems readsFields in
theorem reads_value_succ (room : Nat) (t : Text) : Reads room t (value (fuel + 1) room t) := by
  unfold value
  split
  · rename_i rest
    exact ((reads_string rest).bind fun s rest => .done (str s)).within (List.suffix_cons _ _)
  · exact .brackets _ (by simp [isOpening])
  · rename_i rest room
    refine Reads.opened rfl ?_
    split
    · exact suffix_of_skipSpace ‹_›
    · exact ((readsItems room _).within (skipSpace_suffix rest)).bind fun l _ => .done (arr l)
  · exact .brackets _ (by simp [isOpening])
  · rename_i rest room
    refine Reads.opened rfl ?_
    split
    · exact suffix_of_skipSpace ‹_›
    · refine ((readsFields room _).within (skipSpace_suffix rest)).bind fun l _ => ?_
      exact .done (obj (Table.ofList l).entries)
  · exact reads_scalar t

include readsValue readsItems in
theorem reads_items_succ (room : Nat) (t : Text) : Reads room t (items (fuel + 1) room t) := by
  unfold items
  refine (readsValue room t).bind fun j rest => ?_
  dsimp only
  split
  · exact suffix_of_skipSpace ‹_›
  · rename_i rest comma
    have behind := (skipSpace_suffix rest).trans (suffix_of_skipSpace comma)
    exact ((readsItems room _).within behind).bind fun l _ => .done (j :: l)
  · exact .missing _

include readsValue readsFields in
theorem reads_fields_succ (room : Nat) (t : Text) : Reads room t (fields (fuel + 1) room t) := by
  unfold fields
  split
  · rename_i rest
    refine Reads.within (.bind (reads_string rest) fun key rest => ?_) (List.suffix_cons _ _)
    dsimp only
    split
    · rename_i rest colon
      have behind := (skipSpace_suffix rest).trans (suffix_of_skipSpace colon)
      refine ((readsValue room _).within behind).bind fun j rest => ?_
      dsimp only
      split
      · exact suffix_of_skipSpace ‹_›
      · rename_i rest comma
        have behind := (skipSpace_suffix rest).trans (suffix_of_skipSpace comma)
        exact ((readsFields room _).within behind).bind fun l _ => .done ((key, j) :: l)
      · exact .missing _
    · exact .missing _
  · exact .missing _

end Step

/-- Values, items and fields are read from the front of the text, within the room there is. -/
theorem reads_value (fuel : Nat) : (∀ room t, Reads room t (value fuel room t)) ∧
    (∀ room t, Reads room t (items fuel room t)) ∧
    ∀ room t, Reads room t (fields fuel room t) := by
  induction fuel with
  | zero => exact ⟨fun _ _ => .missing _, fun _ _ => .missing _, fun _ _ => .missing _⟩
  | succ fuel ih =>
      obtain ⟨ofValue, ofItems, ofFields⟩ := ih
      exact ⟨reads_value_succ ofItems ofFields, reads_items_succ ofValue ofItems,
        reads_fields_succ ofValue ofFields⟩

/-- The text accounts for what is wrong with it. -/
theorem ofUnmarked_fault (failed : ofUnmarked t = .error fault) :
    fault.Explained depthLimit t := by
  unfold ofUnmarked at failed
  split at failed
  · cases failed
    exact .malformed _ _
  · unfold ofText at failed
    have reads := ((reads_value (2 * t.length + 2)).1 depthLimit _).within (skipSpace_suffix t)
    cases read : value (2 * t.length + 2) depthLimit (skipSpace t) with
    | error e =>
        rw [read] at failed reads
        cases failed
        exact reads
    | ok r =>
        rw [read] at failed
        dsimp only [bind, Except.bind] at failed
        split at failed
        · cases failed
        · cases failed
          exact .malformed _ _

theorem excessive_of_fault (failed : ofUnmarked t = .error fault)
    (formed : ∀ cause left, fault ≠ .malformed cause left) : Excessive t := by
  cases ofUnmarked_fault failed with
  | malformed cause left => exact absurd rfl (formed cause left)
  | digits many row digits => exact .inl ⟨_, row, digits, many⟩
  | brackets _ many => exact .inr many

end Uniprocessor.Json
