/-!
Strict UTF-8: the decoder and the first fault that it meets.

Only the shortest form of a scalar value is accepted. A fault names the bytes
that cannot be decoded, by their place in the input. What was encoded decodes
to itself (`decode_encode`).
-/

namespace Uniprocessor.Text.Utf8

/-- Why bytes are no UTF-8. -/
inductive Reason where
  | startByte
  | continuation
  | endOfData
  deriving DecidableEq, Repr

/-- The bytes from `first` on, `length` of them, stand for no character. -/
structure Fault where
  reason : Reason
  byte : Nat
  first : Nat
  length : Nat
  deriving DecidableEq, Repr

/-- The bytes from `low` to `high`. -/
structure Span where
  low : Nat
  high : Nat
  deriving DecidableEq, Repr

/-- Where a byte lies that is neither the first nor the second of a character. -/
def Span.tail : Span := ⟨0x80, 0xbf⟩

/-- Where a second byte lies: the span is narrower where the full one would allow
an overlong form, a surrogate or a value beyond the last plane. -/
def Span.second (start : Nat) : Span where
  low := if start = 0xe0 then 0xa0 else if start = 0xf0 then 0x90 else 0x80
  high := if start = 0xed then 0x9f else if start = 0xf4 then 0x8f else 0xbf

/-- What a start byte announces: the bits that it gives, and where each of the
bytes behind it has to lie. -/
def announced (start : Nat) : Option (Nat × List Span) :=
  if start < 0x80 then some (start, [])
  else if start < 0xc2 then none
  else if start < 0xe0 then some (start - 0xc0, [.second start])
  else if start < 0xf0 then some (start - 0xe0, [.second start, .tail])
  else if start < 0xf5 then some (start - 0xf0, [.second start, .tail, .tail])
  else none

/-- Takes a byte for each span and adds its six bits to `bits`. The error says
how many bytes were good. -/
def gather (bits : Nat) : List Span → List Nat → Except (Reason × Nat) (Nat × List Nat)
  | [], rest => .ok (bits, rest)
  | _ :: _, [] => .error (.endOfData, 0)
  | span :: spans, b :: rest =>
      if span.low ≤ b ∧ b ≤ span.high then
        match gather (64 * bits + b % 64) spans rest with
        | .ok r => .ok r
        | .error (reason, good) => .error (reason, good + 1)
      else .error (.continuation, 0)

theorem length_gather {bits n : Nat} {spans : List Span} {rest later : List Nat}
    (h : gather bits spans rest = .ok (n, later)) : later.length + spans.length = rest.length := by
  fun_induction gather bits spans rest with
  | case1 => simp_all
  | case2 => simp at h
  | case3 bits span spans b rest _ r taken ih =>
      obtain rfl : r = (n, later) := by simpa using h
      have := ih taken
      simp only [List.length_cons]
      omega
  | case4 => simp at h
  | case5 => simp at h

/-- Decodes the bytes at place `i` on. -/
def decodeFrom (i : Nat) (bytes : List Nat) : Except Fault (List Char) :=
  match bytes with
  | [] => .ok []
  | start :: rest =>
      match announced start with
      | none => .error ⟨.startByte, start, i, 1⟩
      | some (bits, spans) =>
          match taken : gather bits spans rest with
          | .error (reason, good) => .error ⟨reason, start, i, good + 1⟩
          | .ok (n, later) => (decodeFrom (i + 1 + spans.length) later).map (Char.ofNat n :: ·)
termination_by bytes.length
decreasing_by
  have := length_gather taken
  simp only [List.length_cons]
  omega

def decode (bytes : List Nat) : Except Fault (List Char) := decodeFrom 0 bytes

/-- The bytes of a scalar value. -/
def encodeChar (c : Char) : List Nat :=
  let n := c.toNat
  if n < 0x80 then [n]
  else if n < 0x800 then [0xc0 + n / 64, 0x80 + n % 64]
  else if n < 0x10000 then [0xe0 + n / 4096, 0x80 + n / 64 % 64, 0x80 + n % 64]
  else [0xf0 + n / 262144, 0x80 + n / 4096 % 64, 0x80 + n / 64 % 64, 0x80 + n % 64]

def encode (l : List Char) : List Nat := l.flatMap encodeChar

/-! ### Decoding what was encoded -/

/-- The bytes of a character announce its length and give its value. -/
theorem encodeChar_eq (c : Char) : ∃ start rest bits spans, encodeChar c = start :: rest ∧
    announced start = some (bits, spans) ∧
    ∀ later, gather bits spans (rest ++ later) = .ok (c.toNat, later) := by
  have valid : c.toNat < 0xd800 ∨ 0xdfff < c.toNat ∧ c.toNat < 0x110000 := c.valid
  unfold encodeChar
  generalize c.toNat = n at valid
  simp only
  split
  · rename_i one
    exact ⟨n, [], n, [], rfl, by rw [announced, if_pos one], fun later => rfl⟩
  split
  · refine ⟨_, _, n / 64, [.second (0xc0 + n / 64)], rfl, ?_, fun later => ?_⟩
    · unfold announced
      rw [if_neg (by omega), if_neg (by omega), if_pos (by omega), Nat.add_sub_cancel_left]
    · simp only [gather, Span.second, List.cons_append, List.nil_append]
      rw [if_pos (by constructor <;> (repeat' split) <;> omega)]
      simp only [Except.ok.injEq, Prod.mk.injEq, and_true]
      omega
  split
  · refine ⟨_, _, n / 4096, [.second (0xe0 + n / 4096), .tail], rfl, ?_, fun later => ?_⟩
    · unfold announced
      rw [if_neg (by omega), if_neg (by omega), if_neg (by omega), if_pos (by omega),
        Nat.add_sub_cancel_left]
    · simp only [gather, Span.second, Span.tail, List.cons_append, List.nil_append]
      rw [if_pos (by constructor <;> (repeat' split) <;> omega), if_pos (by omega)]
      simp only [Except.ok.injEq, Prod.mk.injEq, and_true]
      omega
  · refine ⟨_, _, n / 262144, [.second (0xf0 + n / 262144), .tail, .tail], rfl, ?_,
      fun later => ?_⟩
    · unfold announced
      rw [if_neg (by omega), if_neg (by omega), if_neg (by omega), if_neg (by omega),
        if_pos (by omega), Nat.add_sub_cancel_left]
    · simp only [gather, Span.second, Span.tail, List.cons_append, List.nil_append]
      rw [if_pos (by constructor <;> (repeat' split) <;> omega), if_pos (by omega),
        if_pos (by omega)]
      simp only [Except.ok.injEq, Prod.mk.injEq, and_true]
      omega

theorem decodeFrom_encode (i : Nat) (l : List Char) : decodeFrom i (encode l) = .ok l := by
  induction l generalizing i with
  | nil => simp [encode, decodeFrom]
  | cons c cs ih =>
      obtain ⟨start, rest, bits, spans, shape, announces, gives⟩ := encodeChar_eq c
      have split : encode (c :: cs) = start :: (rest ++ encode cs) := by
        simp [encode, shape]
      rw [split, decodeFrom]
      simp only [announces]
      split
      · rename_i h
        simp [gives] at h
      · rename_i h
        rw [gives, Except.ok.injEq, Prod.mk.injEq] at h
        obtain ⟨rfl, rfl⟩ := h
        simp [ih, Except.map, Char.ofNat_toNat]

theorem decode_encode (l : List Char) : decode (encode l) = .ok l := decodeFrom_encode 0 l

end Uniprocessor.Text.Utf8
