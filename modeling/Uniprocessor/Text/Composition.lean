import Std.Data.HashMap
import Uniprocessor.Text.Composition.Table
import Uniprocessor.Text.Hangul
import Uniprocessor.Text.Rows

/-!
Composition: marks in their order, and letters joined with their marks.

The same letter with the same marks can be written in several ways. Sorting the
marks by their classes and then joining what can be joined leaves one of them.
-/

namespace Uniprocessor.Text.Composition

def classes : List (Nat × Nat × Nat) :=
  (rows classLines).filterMap fun row =>
    match row with
    | [first, last, value] => some (first, last, value)
    | _ => none

/-- The class of a mark; what is no mark has class 0. -/
def classOf (n : Nat) : Nat :=
  match classes.find? (fun run => run.1 ≤ n && n ≤ run.2.1) with
  | some (_, _, value) => value
  | none => 0

def composites : Std.HashMap (Nat × Nat) Nat :=
  .ofList ((rows compositeLines).filterMap fun row =>
    match row with
    | [composite, a, b] => some ((a, b), composite)
    | _ => none)

/-- The character that stands for two. -/
def join? (a b : Nat) : Option Nat := (Hangul.join? a b).or composites[(a, b)]?

/-- Puts a mark in front of sorted text, but behind the marks of lower classes that
the text begins with. -/
def place (n : Nat) : List Nat → List Nat
  | [] => [n]
  | m :: rest =>
      if 0 < classOf m ∧ classOf m < classOf n then m :: place n rest else n :: m :: rest

/-- Sorts the marks between two other characters by their classes. Marks of one
class keep their order. -/
def sortMarks (l : List Nat) : List Nat := l.foldr place []

/-- Joins what follows with the character `n`, which is followed by the marks that
did not join, the last of them first. A mark joins if no mark of its class or a
higher one stands between, and another character if none stands between. -/
def composeFrom (n : Nat) (marks : List Nat) (highest : Nat) : List Nat → List Nat
  | [] => n :: marks.reverse
  | m :: rest =>
      let value := classOf m
      let joined := if marks.isEmpty ∨ highest < value then join? n m else none
      match joined with
      | some composite => composeFrom composite marks highest rest
      | none =>
          if value = 0 then n :: marks.reverse ++ composeFrom m [] 0 rest
          else composeFrom n (m :: marks) (max highest value) rest

/-- The text with its marks in order and joined as far as possible. -/
def compose (l : List Nat) : List Nat :=
  match sortMarks l with
  | [] => []
  | n :: rest => composeFrom n [] 0 rest

end Uniprocessor.Text.Composition
