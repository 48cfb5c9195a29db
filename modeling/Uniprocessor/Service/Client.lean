import Uniprocessor.Service.Url

/-!
Sending a request: from what a caller asks for to what arrives at the service.

A target is a path, a URL, or a path behind URLs, and is taken apart more than
once. What arrives is the scheme and the path, without its query and with its
escapes resolved; if what looks like an authority is left in the path, it arrives
in its normal form. The host does not matter to the service, but it must be one
that can be sent, and that the client can show.
-/

namespace Uniprocessor.Service

/-- A request as it arrives. -/
structure Request where
  method : String
  scheme : List Char := "http".toList
  path : List Char
  contentType : Option String := none
  body : List Nat := []

namespace Client

/-- Why a request is not sent. -/
inductive SendError where
  | url (e : UrlError)
  | lineEndInHeader
  deriving DecidableEq, Repr

def SendError.message : SendError → String
  | .url e => e.message
  | .lineEndInHeader => "Header values must not contain newline characters."

/-- The path that a target asks for. -/
def pathOf (target : Url) : Except UrlError (List Char) := do
  let query := if target.query.isEmpty then [] else '?' :: target.query
  let inner ← Url.split (target.path ++ query)
  pure (Url.unescape (← (← Url.split inner.path).write))

/-- The root of the service that a target is sent to, which is a local one where
the target names none. -/
def rootOf (target : Url) : Except UrlError Url := do
  let root : Url := {
    scheme := if target.scheme.isEmpty then "http".toList else target.scheme
    authority := if target.authority.isEmpty then "localhost".toList else target.authority
    path := ['/'] }
  Url.split (← root.write)

/-- The port that a scheme stands for goes without saying. -/
def isDefaultPort (scheme port : List Char) : Bool :=
  if scheme = "http".toList ∨ scheme = "ws".toList then port = "80".toList
  else if scheme = "https".toList ∨ scheme = "wss".toList then port = "443".toList
  else false

/-- A host is shown if it is a name in letters, digits, points and hyphens, and no
user stands before it. What is shown must not deceive. -/
def checkShown (root : Url) : Except UrlError Unit := do
  let name := before ':' root.authority
  let port := behind ':' root.authority
  if name.all (fun c => c.isAlphanum || c = '.' || c = '-') && port.all Char.isDigit then
    let shown ← (Host.decodeName name).mapError .name
    let ending := if port.isEmpty || isDefaultPort root.scheme port then [] else ':' :: port
    Url.checkCompatibility (shown ++ ending)

/-- Sends a request for a target. -/
def send (method target : String) (contentType : Option String) (body : List Nat) :
    Except SendError Request := do
  let url ← (Url.split target.toList).mapError .url
  let path ← (pathOf url).mapError .url
  let root ← (rootOf url).mapError .url
  if contentType.any (fun t => t.contains '\n' || t.contains '\r') then throw .lineEndInHeader
  (checkShown root).mapError .url
  pure { method, scheme := root.scheme, path, contentType, body }

end Client

end Uniprocessor.Service
