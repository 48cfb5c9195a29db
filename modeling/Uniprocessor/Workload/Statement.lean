import Uniprocessor.Process
import Uniprocessor.Text.Case
import Uniprocessor.Text.Lines
import Uniprocessor.Text.Numeral
import Uniprocessor.Workload.Error

/-!
The statements of a workload's text, one on a line.

Outside the blocks a line opens a block or states a ceiling; inside a block it
closes the block or says something about the process. Keywords may be written
in any letter case, and what follows a `#` is a comment.
-/

namespace Uniprocessor.Workload

open WorkloadError (Cause)

/-- A statement outside the blocks. -/
inductive Heading where
  | process (pid : Int)
  | ceiling (resource priority : Int)
  deriving DecidableEq, Repr

/-- A statement about the process of a block. -/
inductive Detail where
  | name (name : Text)
  | start (tick : Int)
  | lifespan (ticks : Int)
  | priority (priority : Int)
  | acquire (request : Request)
  deriving DecidableEq, Repr

/-- The words of a line, without its comment. -/
def lineWords (line : Text) : List Text := Text.words (line.takeWhile (· ≠ .char '#'))

def quantity (q : Quantity) (word : Text) : Except Cause Int :=
  match Text.readInt? word with
  | none => .error (.notInteger q word)
  | some n => if n < q.least then .error (.tooSmall q n) else .ok n

/-- The one argument of a keyword. -/
def onlyArgument (keyword : String) : List Text → Except Cause Text
  | [word] => .ok word
  | words => .error (.argumentCount keyword 1 words.length)

/-- Reads a line outside the blocks, whose first word is `word`. -/
def Heading.read (word : Text) (arguments : List Text) : Except Cause Heading :=
  match Text.lower word, arguments with
  | "process", [pid, [.char '\x7b']] => process <$> quantity .pid pid
  | "process", _ => .error .processForm
  | "resource", [id, ceilingWord, level] =>
      if Text.lower ceilingWord = "ceiling" then do
        let id ← quantity .resource id
        let level ← quantity .ceiling level
        pure (ceiling id level)
      else .error .resourceForm
  | "resource", _ => .error .resourceForm
  | _, _ => .error (.outsideBlock word)

/-- Reads a line inside the block of the process `pid`; `none` closes the block.
A block cannot be opened inside another one. -/
def Detail.read (pid : Int) (word : Text) (arguments : List Text) :
    Except Cause (Option Detail) :=
  let keyword := Text.lower word
  match keyword with
  | "\x7d" =>
      if arguments.isEmpty then .ok none
      else .error (.argumentCount keyword 0 arguments.length)
  | "name" => do return name (← onlyArgument keyword arguments)
  | "start" => do return start (← quantity .start (← onlyArgument keyword arguments))
  | "lifespan" => do return lifespan (← quantity .lifespan (← onlyArgument keyword arguments))
  | "prio" | "priority" => do
      return priority (← quantity .priority (← onlyArgument keyword arguments))
  | "acquire" =>
      match arguments with
      | [id, due, hold] => do
          let resource ← quantity .resource id
          let due ← quantity .acquireTime due
          let hold ← quantity .duration hold
          return acquire { resource, due, hold }
      | _ => .error (.argumentCount keyword 3 arguments.length)
  | "process" => .error (.unclosed pid)
  | _ => .error (.unknownKeyword word)

end Uniprocessor.Workload
