/-!
File paths: a root, if the path is absolute, and the names on the way.

Empty names and single dots say nothing and are dropped; what is left is the
path's normal form, in which it is shown.
-/

namespace Uniprocessor

structure Path where
  /-- A slash, two of them, or nothing for a relative path. -/
  root : List Char
  names : List (List Char)
  deriving DecidableEq, Repr

namespace Path

/-- The names between the slashes, empty ones included. -/
def splitSlash : List Char → List (List Char)
  | [] => [[]]
  | c :: rest =>
      if c = '/' then [] :: splitSlash rest
      else match splitSlash rest with
        | [] => [[c]]
        | name :: others => (c :: name) :: others

/-- Two leading slashes are a root of their own; any other number is one. -/
def rootOf (l : List Char) : List Char :=
  match (l.takeWhile (· = '/')).length with
  | 0 => []
  | 2 => ['/', '/']
  | _ => ['/']

def ofString (s : String) : Path where
  root := rootOf s.toList
  names := (splitSlash s.toList).filter (fun name => name ≠ [] ∧ name ≠ ['.'])

/-- The normal form; a path without names is the working directory. -/
def render (p : Path) : String :=
  let text := p.root ++ List.intercalate ['/'] p.names
  if text.isEmpty then "." else String.ofList text

def isAbsolute (p : Path) : Bool := !p.root.isEmpty

end Path

/-- The normal form of a path. -/
def normalPath (s : String) : String := (Path.ofString s).render

end Uniprocessor
