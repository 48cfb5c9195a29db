import Uniprocessor.Json
import Uniprocessor.Text.Numeral

/-!
Command-line options.

The words are first told apart, up to a `--`, into options and operands; then
they are used up from the left. A long option may be cut short as long as it
stays the only one, its value may follow an equals sign, and short options may
be run together. The last of several wins. Words without a use are reported
together at the end.
-/

namespace Uniprocessor

/-- The options of the program. -/
inductive Switch where
  | help
  | config
  | scheduler
  | quantum
  | maxTicks
  | quiet
  | verbose
  | logLevel
  | status
  | list
  | version
  deriving DecidableEq, Repr

namespace Switch

def all : List Switch :=
  [.help, .config, .scheduler, .quantum, .maxTicks, .quiet, .verbose, .logLevel, .status, .list,
   .version]

/-- The ways to write an option. -/
def names : Switch → List String
  | .help => ["-h", "--help"]
  | .config => ["-c", "--config"]
  | .scheduler => ["-s", "--scheduler"]
  | .quantum => ["--quantum"]
  | .maxTicks => ["--max-ticks"]
  | .quiet => ["-q", "--quiet"]
  | .verbose => ["-v", "--verbose"]
  | .logLevel => ["--log-level"]
  | .status => ["--status"]
  | .list => ["--list"]
  | .version => ["--version"]

def takesValue : Switch → Bool
  | .config | .scheduler | .quantum | .maxTicks | .logLevel => true
  | _ => false

/-- The option in an error message. -/
def shown (s : Switch) : String := "/".intercalate s.names

/-- Every way to write an option, with what it stands for. -/
def vocabulary : List (String × Switch) :=
  all.flatMap (fun s => s.names.map (fun name => (name, s)))

def ofName? (name : String) : Option Switch :=
  (vocabulary.find? (fun e => e.1 = name)).map (·.2)

end Switch

/-- What a command line asks for. The values of the options are as a
configuration takes them. -/
structure Options where
  workload : Option String := none
  config : Option Json := none
  scheduler : Json := .null
  quantum : Json := .null
  maxTicks : Json := .null
  quiet : Bool := false
  verbose : Bool := false
  logLevel : Json := .null
  status : Bool := false
  list : Bool := false

/-- Why the options are not used: a fault in the command line, or a question
that is answered at once. -/
inductive Stop where
  | usage (message : String)
  | help
  | version
  deriving DecidableEq, Repr

namespace Options

/-! ### Telling options from operands -/

inductive Token where
  | operand (word : String)
  | separator
  | unknown (word : String)
  /-- An option as written, with the text that is attached to it. -/
  | option (s : Switch) (name : String) (attached : Option String)
  deriving DecidableEq, Repr

def isDecimal (l : List Char) : Bool := l.all (fun c => (Text.digitValue? (.char c)).isSome)

/-- A negative number, whole or with a point, is an operand. A line feed may
end it. -/
def looksNegative (word : List Char) : Bool :=
  match word with
  | '-' :: rest =>
      let rest := if rest.getLast? = some '\n' then rest.dropLast else rest
      let whole := rest.takeWhile (· ≠ '.')
      match rest.dropWhile (· ≠ '.') with
      | [] => !whole.isEmpty && isDecimal whole
      | _ :: places => isDecimal whole && !places.isEmpty && isDecimal places
  | _ => false

/-- The text before the first equals sign, and the text behind it. -/
def splitEquals (word : String) : Option (String × String) :=
  let l := word.toList
  match l.dropWhile (· ≠ '=') with
  | [] => none
  | _ :: value => some (String.ofList (l.takeWhile (· ≠ '=')), String.ofList value)

/-- The options that a word may stand for: long ones that it begins, or a short
one with text attached. -/
def candidates (word : String) : List (Switch × String × Option String) :=
  match word.toList with
  | '-' :: '-' :: _ =>
      let (start, value) := match splitEquals word with
        | some (start, value) => (start, some value)
        | none => (word, none)
      Switch.vocabulary.filterMap fun e =>
        if start.toList.isPrefixOf e.1.toList then some (e.2, e.1, value) else none
  | '-' :: c :: attached =>
      Switch.vocabulary.filterMap fun e =>
        if e.1 = String.ofList ['-', c] then some (e.2, e.1, some (String.ofList attached))
        else if word.toList.isPrefixOf e.1.toList then some (e.2, e.1, none)
        else none
  | _ => []

/-- Tells what a word is. -/
def token (word : String) : Except Stop Token :=
  match word.toList with
  | '-' :: _ :: _ =>
      match Switch.ofName? word with
      | some s => .ok (.option s word none)
      | none =>
          match (splitEquals word).bind fun e => (Switch.ofName? e.1).map (fun s => (s, e)) with
          | some (s, name, value) => .ok (.option s name (some value))
          | none =>
              match candidates word with
              | [(s, name, value)] => .ok (.option s name value)
              | [] =>
                  if looksNegative word.toList || word.toList.contains ' ' then
                    .ok (.operand word)
                  else .ok (.unknown word)
              | several =>
                  let matching := ", ".intercalate (several.map (·.2.1))
                  .error (.usage s!"ambiguous option: {word} could match {matching}")
  | _ => .ok (.operand word)

/-- The words up to the first `--` may be options; all behind it are operands. -/
def tokens : List String → Except Stop (List Token)
  | [] => .ok []
  | word :: rest =>
      if word = "--" then .ok (.separator :: rest.map .operand)
      else do
        let t ← token word
        let ts ← tokens rest
        pure (t :: ts)

/-! ### Using the words up -/

def argumentError (s : Switch) (message : String) : Stop :=
  .usage s!"argument {s.shown}: {message}"

/-- A value as given; a `--` in its place is dropped and leaves none. -/
def value (given : String) : Json := if given = "--" then .arr [] else .str given

def numberValue (s : Switch) (given : String) : Except Stop Json :=
  if given = "--" then .ok (.arr [])
  else match Text.readInt? given with
    | some n => .ok (.int n)
    | none => .error (argumentError s s!"invalid int value: {Text.quoted given}")

/-- Acts on an option. -/
def act (o : Options) (s : Switch) (given : String) : Except Stop Options :=
  match s with
  | .help => .error .help
  | .version => .error .version
  | .config => .ok { o with config := some (value given) }
  | .scheduler => .ok { o with scheduler := value given }
  | .quantum => do return { o with quantum := ← numberValue s given }
  | .maxTicks => do return { o with maxTicks := ← numberValue s given }
  | .logLevel => .ok { o with logLevel := value given }
  | .quiet => .ok { o with quiet := true }
  | .verbose => .ok { o with verbose := true }
  | .status => .ok { o with status := true }
  | .list => .ok { o with list := true }

/-- The options in one word, and whether the last of them still needs a value. -/
structure Cluster where
  settled : List (Switch × String)
  wanting : Option Switch

/-- Takes apart the text attached to a short option: further short options, up
to one that takes the rest as its value. -/
def cluster (s : Switch) : List Char → Except Stop Cluster
  | [] =>
      if s.takesValue then .ok { settled := [], wanting := some s }
      else .ok { settled := [(s, "")], wanting := none }
  | c :: rest =>
      if s.takesValue then .ok { settled := [(s, String.ofList (c :: rest))], wanting := none }
      else match Switch.ofName? (String.ofList ['-', c]) with
        | none =>
            let attached := Text.quoted (String.ofList (c :: rest))
            .error (argumentError s s!"ignored explicit argument {attached}")
        | some next => do
            let others ← cluster next rest
            pure { others with settled := (s, "") :: others.settled }

/-- The options of a word. Text that is attached to a long option, and empty
text, is a value or nothing. -/
def clusterOf (s : Switch) (name : String) (attached : Option String) : Except Stop Cluster :=
  match attached with
  | none => cluster s []
  | some given =>
      if s.takesValue then .ok { settled := [(s, given)], wanting := none }
      else if given.isEmpty || name.startsWith "--" then
        .error (argumentError s s!"ignored explicit argument {Text.quoted given}")
      else cluster s given.toList

/-- What has been used so far: the options, whether the operand was met, and the
words without a use. -/
structure Used where
  options : Options := {}
  operandMet : Bool := false
  extras : List String := []

/-- Uses up the words. The first operand, with a `--` on either side of it, is
the workload. -/
def use : List Token → Used → Except Stop Used
  | [], u => .ok u
  | .operand word :: rest, u =>
      if u.operandMet then use rest { u with extras := u.extras ++ [word] }
      else
        let u := { u with operandMet := true, options := { u.options with workload := some word } }
        match rest with
        | .separator :: rest => use rest u
        | rest => use rest u
  | .separator :: rest, u =>
      if u.operandMet then use rest { u with extras := u.extras ++ ["--"] }
      else match rest with
        | .operand word :: rest =>
            use rest
              { u with operandMet := true, options := { u.options with workload := some word } }
        | rest => use rest { u with operandMet := true }
  | .unknown word :: rest, u => use rest { u with extras := u.extras ++ [word] }
  | .option s name attached :: rest, u => do
      let c ← clusterOf s name attached
      let (settled, rest') ← match c.wanting, rest with
        | none, _ => pure (c.settled, none)
        | some wanting, .operand word :: _ => pure (c.settled ++ [(wanting, word)], some ())
        | some wanting, _ => throw (argumentError wanting "expected one argument")
      let options ← settled.foldlM (fun o e => o.act e.1 e.2) u.options
      match rest', rest with
      | some (), _ :: rest => use rest { u with options }
      | _, rest => use rest { u with options }

/-- The options of a command line. -/
def parse (words : List String) : Except Stop Options := do
  let u ← use (← tokens words) {}
  if u.extras.isEmpty then pure u.options
  else throw (.usage ("unrecognized arguments: " ++ " ".intercalate u.extras))

end Options

end Uniprocessor
