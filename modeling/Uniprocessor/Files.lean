import Uniprocessor.Files.Path
import Uniprocessor.Table
import Uniprocessor.Text.Lines
import Uniprocessor.Text.Quoted
import Uniprocessor.Text.Utf8

/-!
Files: what reading one can end in, file systems, and a file tree to read from.

A tree holds the directories and files below the working directory; outside it
only the directories of every system are known. Text files are UTF-8; every line
end that a carriage return takes part in becomes a line feed.
-/

namespace Uniprocessor

/-- Why the system does not open a file, or does not read it. -/
inductive Refusal where
  | missing
  | notADirectory
  | isADirectory
  | nameTooLong
  | other (number : Nat) (text : String)
  deriving DecidableEq, Repr

namespace Refusal

def number : Refusal → Nat
  | .missing => 2
  | .notADirectory => 20
  | .isADirectory => 21
  | .nameTooLong => 36
  | .other number _ => number

def text : Refusal → String
  | .missing => "No such file or directory"
  | .notADirectory => "Not a directory"
  | .isADirectory => "Is a directory"
  | .nameTooLong => "File name too long"
  | .other _ text => text

end Refusal

inductive ReadError where
  | refused (refusal : Refusal) (path : String)
  | undecodable (fault : Text.Utf8.Fault)
  | nullInPath
  deriving DecidableEq, Repr

/-- What is wrong with bytes that are no UTF-8. -/
def Text.Utf8.Fault.message (f : Text.Utf8.Fault) : String :=
  let reason := match f.reason with
    | .startByte => "invalid start byte"
    | .continuation => "invalid continuation byte"
    | .endOfData => "unexpected end of data"
  let bytes :=
    if f.length = 1 then
      s!"byte 0x{String.ofList (Text.hex 2 f.byte)} in position {f.first}"
    else s!"bytes in position {f.first}-{f.first + f.length - 1}"
  s!"'utf-8' codec can't decode {bytes}: {reason}"

def ReadError.message : ReadError → String
  | .refused refusal path => s!"[Errno {refusal.number}] {refusal.text}: {Text.quoted path}"
  | .undecodable fault => fault.message
  | .nullInPath => "embedded null byte"

/-- The text of a file's bytes. -/
def decodeText (bytes : List Nat) : Except ReadError (List Char) :=
  match Text.Utf8.decode bytes with
  | .ok text => .ok (Text.foldNewlines text)
  | .error fault => .error (.undecodable fault)

/-- How files are read: the text of the file at a path in normal form. -/
abbrev Reader := String → Except ReadError (List Char)

/-! ### File systems -/

/-- What a system answers to a path in normal form: the bytes of the file there, or why it does
not give them. -/
abbrev FileSystem := String → Except Refusal (List Nat)

/-- The character that no path may hold. -/
def FileSystem.null : Char := Char.ofNat 0

/-- Reads the text files of a system. -/
def FileSystem.reader (fs : FileSystem) : Reader := fun path =>
  if path.toList.contains null then .error .nullInPath
  else match fs path with
    | .error refusal => .error (.refused refusal path)
    | .ok bytes => decodeText bytes

/-! ### A file tree -/

inductive Node where
  | directory
  | file (bytes : List Nat)
  deriving DecidableEq, Repr

/-- The nodes below the working directory, by the names on the way to them. -/
structure FileTree where
  nodes : Table (List (List Char)) Node := {}

namespace FileTree

/-- The names on the way to the working directory. No path can spell the last
one, so the only way in is from below. -/
def workingDirectory : List (List Char) := ["tmp".toList, []]

/-- The directories at the root of every system. -/
def systemDirectories : List String :=
  ["bin", "boot", "dev", "etc", "home", "lib", "media", "mnt", "opt", "proc", "root", "run", "sbin",
   "srv", "sys", "tmp", "usr", "var"]

/-- What is known outside the working directory: the root, the directories there,
and the file that is always empty. -/
def systemNode? (names : List (List Char)) : Option Node :=
  match names with
  | [] => some .directory
  | [name] => if systemDirectories.contains (String.ofList name) then some .directory else none
  | _ => if names = ["dev".toList, "null".toList] then some (.file []) else none

/-- The node at the end of the names from the root on. -/
def node? (t : FileTree) (names : List (List Char)) : Option Node :=
  if names = workingDirectory then some .directory
  else if workingDirectory.isPrefixOf names then
    t.nodes.get? (names.drop workingDirectory.length)
  else systemNode? names

/-- Adds a directory, and those on the way to it. -/
def addDirectory (t : FileTree) (names : List (List Char)) : FileTree :=
  (List.range names.length).foldl
    (fun t i => { t with nodes := t.nodes.put (names.take (i + 1)) .directory }) t

/-- Adds a file, and the directories on the way to it. -/
def addFile (t : FileTree) (names : List (List Char)) (bytes : List Nat) : FileTree :=
  let t := t.addDirectory names.dropLast
  { t with nodes := t.nodes.put names (.file bytes) }

/-- The longest name, in bytes. -/
def nameLimit : Nat := 255

/-- The longest path, in bytes. -/
def pathLimit : Nat := 4095

/-- Follows names from a place. Two dots lead up, and stay at the root; nothing
can be entered but a directory. -/
def walk (t : FileTree) (place : List (List Char)) : List (List Char) → Except Refusal Node
  | [] =>
      match t.node? place with
      | some node => .ok node
      | none => .error .missing
  | name :: rest =>
      match t.node? place with
      | none => .error .missing
      | some (.file _) => .error .notADirectory
      | some .directory =>
          if name = ['.', '.'] then walk t place.dropLast rest
          else if nameLimit < (Text.Utf8.encode name).length then .error .nameTooLong
          else walk t (place ++ [name]) rest

/-- The bytes of the file at a path. -/
def bytes (t : FileTree) (p : Path) : Except Refusal (List Nat) := do
  let start := if p.isAbsolute then [] else workingDirectory
  if pathLimit < (Text.Utf8.encode p.render.toList).length then throw .nameTooLong
  match ← t.walk start p.names with
  | .directory => throw .isADirectory
  | .file bytes => pure bytes

/-- Reads the text files of the tree. -/
def reader (t : FileTree) : Reader :=
  FileSystem.reader fun path => t.bytes (Path.ofString path)

end FileTree

end Uniprocessor
