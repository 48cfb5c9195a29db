import Uniprocessor.CommandLine
import Uniprocessor.Json.Encoding
import Uniprocessor.Report.Json
import Uniprocessor.Service.Client

/-!
The web service: the registered policies, and simulations on request.

`GET /api/policies` lists the policies. `POST /api/simulate` takes an object
with a workload and, if wanted, a policy, a quantum and a tick limit, and
answers with the report and the final status.
-/

namespace Uniprocessor.Service

open CommandLine (MakePolicy)

/-- An answer; `none` stands for a body that is not JSON. -/
structure Response where
  status : Nat
  body : Option Json := none

/-! ### Routes -/

/-- The path without repeated slashes in front. -/
def rooted (path : List Char) : List Char :=
  if path.isEmpty then [] else '/' :: path.dropWhile (· = '/')

/-- Slashes in a row made one. -/
def mergeSlashes : List Char → List Char
  | a :: b :: rest =>
      if a = '/' ∧ b = '/' then mergeSlashes (b :: rest) else a :: mergeSlashes (b :: rest)
  | l => l

inductive Route where
  | policies
  | simulate
  | asset
  deriving DecidableEq, Repr

/-- The route of a path. An asset has a name that does not start with a slash,
and holds no line feed behind its first character. -/
def Route.ofPath? (path : List Char) : Option Route :=
  if path = "/api/policies".toList then some .policies
  else if path = "/api/simulate".toList then some .simulate
  else match path.drop 8 with
    | c :: rest =>
        if "/static/".toList.isPrefixOf path ∧ c ≠ '/' ∧ '\n' ∉ rest then some .asset else none
    | [] => none

/-- Every route can be asked for its options, and what can be got can also be
got without its body. -/
def Route.allows : Route → String → Bool
  | .simulate, method => method = "POST" ∨ method = "OPTIONS"
  | _, method => method = "GET" ∨ method = "HEAD" ∨ method = "OPTIONS"

/-! ### Answers -/

/-- A type counts as JSON by its name, whatever its parameters. Spaces and tabs
around the name do not count. -/
def isJson (contentType : String) : Bool :=
  let isSpace (c : CodePoint) : Bool := c = .char ' ' || c = .char '\t'
  let name := Text.lower (Text.trimBy isSpace (String.ofList (before ';' contentType.toList)))
  name = "application/json" ||
    ("application/".toList.isPrefixOf name.toList && "+json".toList.isSuffixOf name.toList)

/-- The JSON value of a body, or why it is not read. -/
def bodyJson (r : Request) : Option (Except Json.Fault Json) :=
  if r.contentType.any isJson then Json.ofBytes? r.body else none

def errorBody (message : Text) : Option Json := some (.obj [("error", .str message)])

def policiesJson : Json :=
  .arr (Registry.all.map fun d => .obj [("key", .str d.key), ("title", .str d.title)])

/-- The simulation that a request asks for. -/
def simulationOf (make : MakePolicy) (defaults : Config) (data : Json) (workload : Json) :
    Except (LoadError Text) Simulation := do
  let setting (key : Text) : Text × Json := (key, (data.field? key).getD .null)
  let overrides := [setting "policy", setting "quantum", setting "max_ticks"]
  let config ← CommandLine.orMessage ConfigError.message (defaults.merge overrides)
  let w ← (Workload.ofText workload.asText).mapError (fun e => .invalid e.message)
  CommandLine.prepare make config w

/-- Runs a simulation. A failure that nobody answers is an internal error. -/
def simulate (make : MakePolicy) (defaults : Config) (r : Request) : Response :=
  match bodyJson r with
  | some (.error (.tooDeep _)) => { status := 500 }
  | some (.ok (.obj fields)) =>
      let data := Json.obj fields
      match data.field? "workload" with
      | none => { status := 400, body := errorBody "Missing 'workload' field" }
      | some workload =>
          match simulationOf make defaults data workload with
          | .error (.invalid message) => { status := 400, body := errorBody message }
          | .error (.unhandled _) => { status := 500 }
          | .ok s =>
              match s.run with
              | .error (.violation v) _ =>
                  { status := 500, body := errorBody s!"protocol violation: {v.message}" }
              | .error _ _ => { status := 500 }
              | .ok report s =>
                  match report.fields with
                  | .error _ => { status := 500 }
                  | .ok fields =>
                      let status : Text × Json := ("status", .str s.status)
                      { status := 200, body := some (.obj (fields ++ [status])) }
  | _ => { status := 400, body := errorBody "Missing 'workload' field" }

/-- Sockets have schemes of their own. -/
def Request.isSocket (r : Request) : Bool := r.scheme = "ws".toList || r.scheme = "wss".toList

/-- The answer to a request. A socket is a bad request wherever another request
would do. The method counts in any letter case, but only one that is sent in
capitals gets an answer without a body. -/
def answer (make : MakePolicy) (defaults : Config) (r : Request) : Response :=
  let method := Text.upper r.method
  let path := rooted r.path
  match Route.ofPath? path with
  | none =>
      match Route.ofPath? (mergeSlashes path) with
      | none => { status := 404 }
      | some route =>
          if !route.allows method then { status := 405 }
          else if r.isSocket then { status := 400 }
          else { status := 308 }
  | some route =>
      if !route.allows method then { status := 405 }
      else if r.isSocket then { status := 400 }
      else if method = "OPTIONS" then { status := 200 }
      else match route with
        | .asset => { status := 404 }
        | .policies =>
            { status := 200, body := if r.method = "HEAD" then none else some policiesJson }
        | .simulate => simulate make defaults r

end Uniprocessor.Service
