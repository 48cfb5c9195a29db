import Uniprocessor.Text.Numeral

/-!
A number that is written in decimal digits is read back (`readInt?_toString`).
-/

namespace Uniprocessor.Text

variable {c : Char}

theorem isDigit_iff : c.isDigit ↔ 48 ≤ c.toNat ∧ c.toNat ≤ 57 := by
  simp only [Char.isDigit, Bool.and_eq_true, decide_eq_true_eq, ge_iff_le, UInt32.le_iff_toNat_le]
  rfl

theorem digitValue?_of_isDigit (digit : c.isDigit) :
    digitValue? (.char c) = some (c.toNat - 48) := by
  have range := isDigit_iff.mp digit
  have latin : (decide (48 ≤ c.toNat) && decide (c.toNat < 48 + 10)) = true := by
    simp only [Bool.and_eq_true, decide_eq_true_eq]
    omega
  have found : zeroDigits.find? (fun first => first ≤ c.toNat && c.toNat < first + 10) = some 48 :=
    List.find?_cons_of_pos latin
  rw [digitValue?, CodePoint.value, found]
  rfl

theorem isBlank_of_isDigit (digit : c.isDigit) : isBlank (.char c) = false := by
  have range : 48 ≤ (CodePoint.char c).value ∧ (CodePoint.char c).value ≤ 57 := isDigit_iff.mp digit
  refine Bool.eq_false_iff.mpr fun blank => ?_
  simp only [isBlank, Bool.or_eq_true, Bool.and_eq_true, decide_eq_true_eq, beq_iff_eq] at blank
  omega

theorem ne_of_isDigit (digit : c.isDigit) {d : Char} (other : d.isDigit = false) : c ≠ d := by
  rintro rfl
  rw [digit] at other
  cases other

theorem digits?_of_isDigit {l : List Char} (some : l ≠ []) (digits : ∀ c ∈ l, c.isDigit) :
    digits? (l.map .char) = .some (l.map (fun c => c.toNat - 48)) := by
  match l with
  | [c] =>
      simp only [List.map_cons, List.map_nil, digits?, digitValue?_of_isDigit (digits c (.head _))]
      rfl
  | c :: d :: l =>
      have rest := digits?_of_isDigit (List.cons_ne_nil d l) fun e mem => digits e (.tail _ mem)
      have next := ne_of_isDigit (digits d (.tail _ (.head _))) (d := '_') (by decide)
      rw [List.map_cons, List.map_cons] at rest ⊢
      rw [digits?, digitValue?_of_isDigit (digits c (.head _)), rest]
      · rfl
      · nofun
      · intro more same
        cases same
        exact next rfl

/-! ### Numerals -/

theorem toList_toString {n : Int} (nonneg : 0 ≤ n) :
    (toString n).toList = Nat.toDigits 10 n.toNat := by
  obtain ⟨k, rfl⟩ := Int.eq_ofNat_of_zero_le nonneg
  exact (congrArg String.toList (Nat.toString_eq_ofList_toDigits ..)).trans String.toList_ofList

theorem isDigit_of_mem_toString {n : Int} (nonneg : 0 ≤ n) :
    ∀ c ∈ (toString n).toList, c.isDigit := by
  rw [toList_toString nonneg]
  intro c mem
  exact Nat.isDigit_of_mem_toDigits (by decide) (by decide) mem

theorem trimBy_of_none {p : CodePoint → Bool} {t : Text} (none : ∀ c ∈ t, p c = false) :
    trimBy p t = t := by
  have keeps : ∀ u : Text, (∀ c ∈ u, p c = false) → u.dropWhile p = u := by
    rintro (_ | ⟨c, u⟩) none
    · rfl
    · exact List.dropWhile_cons_of_neg (by simp [none c (.head _)])
  rw [trimBy, keeps t none, keeps _ fun c mem => none c (List.mem_reverse.mp mem),
    List.reverse_reverse]

theorem ofDigits_toDigits (n : Nat) :
    ofDigits ((Nat.toDigits 10 n).map (fun c => c.toNat - 48)) = n := by
  rw [ofDigits, List.foldl_map]
  exact (Nat.ofDigitChars_eq_foldl ..).symm.trans Nat.ofDigitChars_ten_toDigits

/-- The digits of a number, as it is written. -/
theorem digits?_toString {n : Int} (nonneg : 0 ≤ n) :
    ∃ ds, digits? (ofString (toString n)) = some ds ∧ ds.length = (toString n).length ∧
      ofDigits ds = n := by
  have some : (toString n).toList ≠ [] := by
    rw [toList_toString nonneg]
    exact Nat.toDigits_ne_nil
  refine ⟨_, digits?_of_isDigit some (isDigit_of_mem_toString nonneg), ?_, ?_⟩
  · rw [List.length_map, String.length_toList]
  · rw [toList_toString nonneg, ofDigits_toDigits, Int.toNat_of_nonneg nonneg]

/-- Decimal digits are read back, as long as they are not too many. -/
theorem readInt?_toString {n : Int} (nonneg : 0 ≤ n) (short : (toString n).length ≤ digitLimit) :
    readInt? (ofString (toString n)) = some n := by
  have digits : ∀ p ∈ ofString (toString n), ∃ c : Char, p = .char c ∧ c.isDigit := by
    intro p mem
    obtain ⟨c, written, rfl⟩ := List.mem_map.mp mem
    exact ⟨c, rfl, isDigit_of_mem_toString nonneg c written⟩
  have noSpace : ∀ p ∈ ofString (toString n), isNumeralSpace p = false := by
    intro p mem
    obtain ⟨c, rfl, digit⟩ := digits p mem
    rw [isNumeralSpace, isBlank_of_isDigit digit]
    rfl
  obtain ⟨ds, read, length, value⟩ := digits?_toString nonneg
  have natural : readNat? (ofString (toString n)) = some n.toNat := by
    have number : ofDigits ds = n.toNat := by omega
    rw [readNat?, read, ← number]
    exact if_pos (length ▸ short)
  rw [readInt?, trimBy_of_none noSpace]
  -- No digit is a sign, so the word is read as a natural number.
  split
  · rename_i rest signed
    obtain ⟨c, same, digit⟩ := digits (.char '-') (signed ▸ .head _)
    cases same
    cases digit
  · rename_i rest signed
    obtain ⟨c, same, digit⟩ := digits (.char '+') (signed ▸ .head _)
    cases same
    cases digit
  · rw [natural]
    exact congrArg some (Int.toNat_of_nonneg nonneg)

end Uniprocessor.Text
