import Mathlib
import Uniprocessor.Text.Utf8

/-!
Bytes that are a text.

What was encoded decodes to itself, and nothing else decodes: bytes that decode are those of the
text that they give (`decode_eq_ok_iff`). So the decoder finds a fault in exactly the bytes that
no text is encoded as (`decode_fails_iff`).
-/

namespace Uniprocessor.Text.Utf8

theorem gather_nil {bits n : Nat} {rest later : List Nat} :
    gather bits [] rest = .ok (n, later) ↔ n = bits ∧ later = rest := by
  simp [gather, eq_comm]

theorem gather_cons {bits n : Nat} {span : Span} {spans : List Span} {rest later : List Nat}
    (taken : gather bits (span :: spans) rest = .ok (n, later)) :
    ∃ b more, rest = b :: more ∧ span.low ≤ b ∧ b ≤ span.high ∧
      gather (64 * bits + b % 64) spans more = .ok (n, later) := by
  cases rest with
  | nil => simp [gather] at taken
  | cons b more =>
      rw [gather] at taken
      split at taken
      · rename_i within
        cases given : gather (64 * bits + b % 64) spans more with
        | error e =>
            rw [given] at taken
            cases taken
        | ok r =>
            rw [given] at taken
            cases taken
            exact ⟨b, more, rfl, within.1, within.2, given⟩
      · cases taken

theorem Span.second_within {start b : Nat} (low : (second start).low ≤ b)
    (high : b ≤ (second start).high) :
    0x80 ≤ b ∧ b ≤ 0xbf ∧ (start = 0xe0 → 0xa0 ≤ b) ∧ (start = 0xf0 → 0x90 ≤ b) ∧
      (start = 0xed → b ≤ 0x9f) ∧ (start = 0xf4 → b ≤ 0x8f) := by
  unfold second at low high
  dsimp only at low high
  repeat' split at low
  all_goals repeat' split at high
  all_goals omega

theorem encodeChar_ofNat {n : Nat} (valid : n < 0xd800 ∨ 0xdfff < n ∧ n < 0x110000) :
    encodeChar (Char.ofNat n) =
      if n < 0x80 then [n]
      else if n < 0x800 then [0xc0 + n / 64, 0x80 + n % 64]
      else if n < 0x10000 then [0xe0 + n / 4096, 0x80 + n / 64 % 64, 0x80 + n % 64]
      else
        [0xf0 + n / 262144, 0x80 + n / 4096 % 64, 0x80 + n / 64 % 64, 0x80 + n % 64] := by
  unfold encodeChar
  rw [Char.toNat_ofNat, if_pos valid]

/-- The bytes that give a character are the bytes of that character. -/
theorem encodeChar_of_gather {start bits n : Nat} {spans : List Span} {rest later : List Nat}
    (announces : announced start = some (bits, spans))
    (taken : gather bits spans rest = .ok (n, later)) :
    start :: rest = encodeChar (Char.ofNat n) ++ later := by
  -- By the length that the first byte announces.
  unfold announced at announces
  split at announces
  · rw [Option.some.injEq, Prod.mk.injEq] at announces
    obtain ⟨rfl, rfl⟩ := announces
    obtain ⟨rfl, rfl⟩ := gather_nil.mp taken
    rw [encodeChar_ofNat (by omega), if_pos (by omega)]
    rfl
  split at announces
  · cases announces
  split at announces
  · rw [Option.some.injEq, Prod.mk.injEq] at announces
    obtain ⟨rfl, rfl⟩ := announces
    obtain ⟨b, more, rfl, low, high, taken⟩ := gather_cons taken
    obtain ⟨rfl, rfl⟩ := gather_nil.mp taken
    have := Span.second_within low high
    rw [encodeChar_ofNat (by omega), if_neg (by omega), if_pos (by omega)]
    simp only [List.cons_append, List.nil_append, List.cons.injEq, and_true]
    constructor <;> omega
  split at announces
  · rw [Option.some.injEq, Prod.mk.injEq] at announces
    obtain ⟨rfl, rfl⟩ := announces
    obtain ⟨b, more, rfl, low, high, taken⟩ := gather_cons taken
    obtain ⟨c, more, rfl, low', high', taken⟩ := gather_cons taken
    obtain ⟨rfl, rfl⟩ := gather_nil.mp taken
    have := Span.second_within low high
    simp only [Span.tail] at low' high'
    rw [encodeChar_ofNat (by omega), if_neg (by omega), if_neg (by omega), if_pos (by omega)]
    simp only [List.cons_append, List.nil_append, List.cons.injEq, and_true]
    refine ⟨?_, ?_, ?_⟩ <;> omega
  split at announces
  · rw [Option.some.injEq, Prod.mk.injEq] at announces
    obtain ⟨rfl, rfl⟩ := announces
    obtain ⟨b, more, rfl, low, high, taken⟩ := gather_cons taken
    obtain ⟨c, more, rfl, low', high', taken⟩ := gather_cons taken
    obtain ⟨d, more, rfl, low'', high'', taken⟩ := gather_cons taken
    obtain ⟨rfl, rfl⟩ := gather_nil.mp taken
    have := Span.second_within low high
    simp only [Span.tail] at low' high' low'' high''
    rw [encodeChar_ofNat (by omega), if_neg (by omega), if_neg (by omega), if_neg (by omega)]
    simp only [List.cons_append, List.nil_append, List.cons.injEq, and_true]
    refine ⟨?_, ?_, ?_, ?_⟩ <;> omega
  · cases announces

theorem eq_encode_of_decodeFrom {i : Nat} {bytes : List Nat} {l : List Char}
    (decoded : decodeFrom i bytes = .ok l) : bytes = encode l := by
  fun_induction decodeFrom i bytes generalizing l with
  | case1 =>
      cases decoded
      rfl
  | case2 => cases decoded
  | case3 => cases decoded
  | case4 i start rest bits spans announces n later taken ih =>
      cases further : decodeFrom (i + 1 + spans.length) later with
      | error e =>
          rw [further] at decoded
          cases decoded
      | ok cs =>
          rw [further] at decoded
          cases decoded
          rw [encodeChar_of_gather announces taken, ih further]
          rfl

/-- Exactly the bytes of a text decode, and to that text. -/
theorem decode_eq_ok_iff {bytes : List Nat} {l : List Char} :
    decode bytes = .ok l ↔ bytes = encode l :=
  ⟨eq_encode_of_decodeFrom, fun same => same ▸ decode_encode l⟩

theorem decode_fails_iff {bytes : List Nat} :
    (∃ fault, decode bytes = .error fault) ↔ ∀ l, bytes ≠ encode l := by
  cases decoded : decode bytes with
  | error fault =>
      refine ⟨fun _ l same => ?_, fun _ => ⟨fault, rfl⟩⟩
      rw [decode_eq_ok_iff.mpr same] at decoded
      cases decoded
  | ok l =>
      refine ⟨nofun, fun none => absurd (decode_eq_ok_iff.mp decoded) (none l)⟩

end Uniprocessor.Text.Utf8
