/-!
Punycode: text of any characters in letters, digits and hyphens.

The ASCII characters come first. Behind the last hyphen the others follow in
ascending order, each as the distance that a count over all characters and all
places runs until it is put in. A distance is written in digits of base 36, the
least significant first; a digit below a threshold ends it, and the thresholds
follow the distances seen so far.

Characters go by number. Reading ends because every distance takes at least one
digit (`length_readDistance`).
-/

namespace Uniprocessor.Service.Host.Punycode

/-! ### Digits -/

def base : Nat := 36

def hyphen : Nat := 0x2d

/-- The digits are the small letters and then 0 to 9. -/
def digit (d : Nat) : Nat := if d < 26 then 0x61 + d else 0x30 + (d - 26)

/-- The value of a digit, also where the letter is a capital. -/
def digitValue? (n : Nat) : Option Nat :=
  if 0x61 ≤ n ∧ n ≤ 0x7a then some (n - 0x61)
  else if 0x41 ≤ n ∧ n ≤ 0x5a then some (n - 0x41)
  else if 0x30 ≤ n ∧ n ≤ 0x39 then some (n - 0x30 + 26)
  else none

/-! ### Thresholds -/

/-- The threshold for a digit whose place counts `k`, between 1 and 26. -/
def threshold (k bias : Nat) : Nat := max 1 (min 26 (k - bias))

theorem threshold_pos (k bias : Nat) : 1 ≤ threshold k bias := Nat.le_max_left ..

/-- Divides a distance until it is small, and counts the divisions. -/
def shrink (distance k : Nat) : Nat × Nat :=
  if 455 < distance then shrink (distance / 35) (k + base) else (distance, k)
termination_by distance
decreasing_by exact Nat.div_lt_self (by omega) (by omega)

/-- The bias after a distance, when `count` characters are in place. -/
def adapt (distance count : Nat) (isFirst : Bool) : Nat :=
  let damped := if isFirst then distance / 700 else distance / 2
  let (rest, k) := shrink (damped + damped / count) 0
  k + base * rest / (rest + 38)

def firstBias : Nat := 72

/-- The first character that is not ASCII. -/
def firstOther : Nat := 0x80

/-! ### Writing -/

/-- The digits of a distance, from the place that counts `k` on. -/
def writeDistance (bias k distance : Nat) : List Nat :=
  let t := threshold k bias
  if distance < t then [digit distance]
  else
    digit (t + (distance - t) % (base - t)) ::
      writeDistance bias (k + base) ((distance - t) / (base - t))
termination_by distance
decreasing_by
  have pos := threshold_pos k bias
  exact Nat.lt_of_le_of_lt (Nat.div_le_self ..) (by omega)

/-- What has been written, the distance run since, the bias, and how many
characters are in place. -/
structure Writer where
  written : List Nat := []
  distance : Nat := 0
  bias : Nat := firstBias
  count : Nat
  isFirst : Bool := true

/-- Passes a character of the text while the characters `n` are put in. -/
def Writer.pass (n : Nat) (w : Writer) (c : Nat) : Writer :=
  if c < n then { w with distance := w.distance + 1 }
  else if c = n then
    { written := w.written ++ writeDistance w.bias base w.distance
      distance := 0
      bias := adapt w.distance (w.count + 1) w.isFirst
      count := w.count + 1
      isFirst := false }
  else w

/-- Puts in all characters of the given numbers, which ascend from `n` on. -/
def Writer.putIn (text : List Nat) (n : Nat) (w : Writer) : List Nat → Writer
  | [] => w
  | m :: rest =>
      let run := { w with distance := w.distance + (m - n) * (w.count + 1) }
      let done := text.foldl (Writer.pass m) run
      Writer.putIn text (m + 1) { done with distance := done.distance + 1 } rest

/-- The text in Punycode. -/
def encode (text : List Nat) : List Nat :=
  let ascii := text.filter (· < firstOther)
  let others := ((text.filter (firstOther ≤ ·)).mergeSort (· ≤ ·)).eraseDups
  let writer := Writer.putIn text firstOther { count := ascii.length } others
  (if ascii.isEmpty then [] else ascii ++ [hyphen]) ++ writer.written

/-! ### Reading -/

inductive Fault where
  | incomplete
  | noDigit (n : Nat)
  | outOfRange (n : Nat)
  deriving DecidableEq, Repr

/-- Reads the digits of a distance from the place that counts `k` on, where a digit
of value 1 weighs `weight`. -/
def readDistance (bias : Nat) : List Nat → Nat → Nat → Nat → Except Fault (Nat × List Nat)
  | [], _, _, _ => .error .incomplete
  | c :: rest, k, weight, distance =>
      match digitValue? c with
      | none => .error (.noDigit c)
      | some d =>
          let t := threshold k bias
          if d < t then .ok (distance + d * weight, rest)
          else readDistance bias rest (k + base) (weight * (base - t)) (distance + d * weight)

theorem length_readDistance {bias : Nat} {l : List Nat} {k weight distance : Nat}
    {r : Nat × List Nat} (h : readDistance bias l k weight distance = .ok r) :
    r.2.length < l.length := by
  induction l generalizing k weight distance with
  | nil => simp [readDistance] at h
  | cons c rest ih =>
      simp only [readDistance] at h
      split at h
      · simp at h
      · split at h
        · simp only [Except.ok.injEq] at h
          simp [← h]
        · have shorter := ih h
          simp only [List.length_cons]
          omega

/-- The last character of the code space. -/
def lastCharacter : Nat := 0x10ffff

/-- Puts characters into a text, one for each distance. The count goes on from the
character `n` and the place `place`. -/
def readInto (text : List Nat) (n place bias : Nat) (isFirst : Bool) (l : List Nat) :
    Except Fault (List Nat) :=
  if l.isEmpty then .ok text
  else match read : readDistance bias l base 1 0 with
    | .error f => .error f
    | .ok (distance, rest) =>
        let count := text.length + 1
        let n := n + (place + distance) / count
        let place := (place + distance) % count
        if lastCharacter < n then .error (.outOfRange n)
        else
          readInto (text.insertIdx place n) n (place + 1) (adapt distance count isFirst) false
            rest
termination_by l.length
decreasing_by
  have shorter := length_readDistance read
  exact shorter

/-- What stands before the last hyphen, and what stands behind it. -/
def splitHyphen (l : List Nat) : List Nat × List Nat :=
  ((l.reverse.dropWhile (· ≠ hyphen)).drop 1 |>.reverse,
    (l.reverse.takeWhile (· ≠ hyphen)).reverse)

/-- The text of Punycode. -/
def decode (l : List Nat) : Except Fault (List Nat) :=
  let (ascii, distances) := splitHyphen l
  readInto ascii firstOther 0 firstBias true distances

end Uniprocessor.Service.Host.Punycode
