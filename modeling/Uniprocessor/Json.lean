import Uniprocessor.Number.Decimal
import Uniprocessor.Table
import Uniprocessor.Text.Quoted

/-!
JSON values, and two ways to write them: as JSON, and as a message shows them.

Whole numbers and floating-point numbers are told apart: a fraction or an
exponent makes a number a floating-point one. A string may hold halves of
surrogate pairs. The fields of an object keep their order.
-/

namespace Uniprocessor

open Number (Binary64)

inductive Json where
  | null
  | bool (b : Bool)
  | int (n : Int)
  | real (x : Binary64)
  | str (t : Text)
  | arr (items : List Json)
  | obj (fields : List (Text × Json))

namespace Json

instance : Inhabited Json := ⟨null⟩

/-- The name of the kind of value in a message. -/
def kind : Json → String
  | null => "NoneType"
  | bool _ => "bool"
  | int _ => "int"
  | real _ => "float"
  | str _ => "str"
  | arr _ => "list"
  | obj _ => "dict"

/-- The value of a field of an object. -/
def field? (j : Json) (key : Text) : Option Json :=
  match j with
  | obj fields => (fields.find? (fun f => f.1 = key)).map (·.2)
  | _ => none

def isNull : Json → Bool
  | null => true
  | _ => false

/-- The whole number that a value equals, where a truth value is 1 or 0. -/
def whole? : Json → Option Int
  | bool b => some (if b then 1 else 0)
  | int n => some n
  | real x => x.whole?
  | _ => none

/-! ### As JSON -/

def escape : CodePoint → List Char
  | .char c =>
      if c = '"' ∨ c = '\\' then ['\\', c]
      else if c.toNat < 0x20 then '\\' :: 'u' :: Text.hex 4 c.toNat
      else [c]
  | .half n => '\\' :: 'u' :: Text.hex 4 (CodePoint.half n).value

def renderString (t : Text) : String := String.ofList ('"' :: t.flatMap escape ++ ['"'])

/-- A floating-point number as the reader takes it. -/
def renderReal : Binary64 → String
  | .infinite negative => if negative then "-Infinity" else "Infinity"
  | .notANumber => "NaN"
  | x => x.render

/-- The value on one line, without blanks. -/
def render : Json → String
  | null => "null"
  | bool b => if b then "true" else "false"
  | int n => toString n
  | real x => renderReal x
  | str t => renderString t
  | arr items => "[" ++ ",".intercalate (renderItems items) ++ "]"
  | obj fields => "\x7b" ++ ",".intercalate (renderFields fields) ++ "\x7d"
where
  renderItems : List Json → List String
    | [] => []
    | j :: rest => render j :: renderItems rest
  renderFields : List (Text × Json) → List String
    | [] => []
    | (key, j) :: rest => (renderString key ++ ":" ++ render j) :: renderFields rest

/-! ### As a message shows it -/

/-- The value within another one: texts are quoted. -/
def inner : Json → String
  | null => "None"
  | bool b => if b then "True" else "False"
  | int n => toString n
  | real x => x.render
  | str t => Text.quoted t
  | arr items => "[" ++ ", ".intercalate (innerItems items) ++ "]"
  | obj fields => "\x7b" ++ ", ".intercalate (innerFields fields) ++ "\x7d"
where
  innerItems : List Json → List String
    | [] => []
    | j :: rest => inner j :: innerItems rest
  innerFields : List (Text × Json) → List String
    | [] => []
    | (key, j) :: rest => (Text.quoted key ++ ": " ++ inner j) :: innerFields rest

/-- The value as a text; a text is itself. -/
def asText : Json → Text
  | str t => t
  | j => inner j

end Json

end Uniprocessor
