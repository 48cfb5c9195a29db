import Uniprocessor.Service.Host.Address
import Uniprocessor.Service.Host.Name
import Uniprocessor.Text.Utf8

/-!
Targets of requests as URLs.

A URL is cut at fixed characters: a scheme before a colon, an authority behind
two slashes, the path, and the query behind a question mark. Nothing is refused
but authorities with bad brackets or deceptive characters; hosts and ports are
checked when the URL is written.
-/

namespace Uniprocessor.Service

/-- What is wrong with a URL. -/
inductive UrlError where
  | brackets
  | laterVersion
  | bracketedVersion4
  | noAddress (host : List Char)
  | compatibility (authority : List Char)
  | name (f : Host.NameFault)
  | portForm (port : List Char)
  | portDigits (count : Nat)
  | portRange
  deriving DecidableEq, Repr

def UrlError.message : UrlError → String
  | .brackets => "Invalid IPv6 URL"
  | .laterVersion => "IPvFuture address is invalid"
  | .bracketedVersion4 => "An IPv4 address cannot be in brackets"
  | .noAddress host =>
      s!"{Text.quoted (host.map .char)} does not appear to be an IPv4 or IPv6 address"
  | .compatibility authority =>
      s!"netloc '{String.ofList authority}' contains invalid characters under NFKC normalization"
  | .name f => f.message
  | .portForm port => s!"Port could not be cast to integer value as {Text.quoted (port.map .char)}"
  | .portDigits count => Text.digitLimitMessage count
  | .portRange => "Port out of range 0-65535"

structure Url where
  scheme : List Char := []
  authority : List Char := []
  path : List Char
  query : List Char := []
  deriving DecidableEq, Repr

/-- What stands before the first `c`. -/
def before (c : Char) (l : List Char) : List Char := l.takeWhile (· ≠ c)

/-- What stands behind the first `c`. -/
def behind (c : Char) (l : List Char) : List Char := (l.dropWhile (· ≠ c)).drop 1

namespace Url

/-! ### Splitting -/

/-- A letter, and then letters, digits, plus and minus signs and points. -/
def isScheme : List Char → Bool
  | [] => false
  | c :: rest =>
      c.isAlpha && rest.all (fun c => c.isAlphanum || c = '+' || c = '-' || c = '.')

def splitScheme (l : List Char) : List Char × List Char :=
  if l.contains ':' && isScheme (before ':' l) then
    ((before ':' l).map Char.toLower, behind ':' l)
  else ([], l)

def endsAuthority (c : Char) : Bool := c = '/' || c = '?' || c = '#'

def splitAuthority : List Char → List Char × List Char
  | '/' :: '/' :: rest =>
      (rest.takeWhile (!endsAuthority ·), rest.dropWhile (!endsAuthority ·))
  | l => ([], l)

/-- The part of an authority that names the user, before the last at sign. -/
def userOf (authority : List Char) : List Char :=
  ((authority.reverse.dropWhile (· ≠ '@')).drop 1).reverse

/-- The part of an authority that names the host and the port. -/
def serverOf (authority : List Char) : List Char :=
  (before '@' authority.reverse).reverse

/-- What stands between brackets is an address that is not of version 4. -/
def checkAddress (host : List Char) : Except UrlError Unit :=
  if host.head? = some 'v' then
    if Host.isLaterVersion host then .ok () else .error .laterVersion
  else if Host.isVersion4 host then .error .bracketedVersion4
  else if Host.isVersion6 host then .ok ()
  else .error (.noAddress host)

/-- Brackets come in pairs around the host. Where there are brackets elsewhere in
an authority, the host must be an address all the same. -/
def checkBrackets (authority : List Char) : Except UrlError Unit :=
  let server := serverOf authority
  if authority.contains '[' != authority.contains ']' then .error .brackets
  else if !authority.contains '[' then .ok ()
  else if !server.contains '[' then checkAddress (before ':' server)
  else if server.head? ≠ some '[' then .error .brackets
  else match behind ']' server with
    | [] | ':' :: _ => checkAddress (before ']' (server.drop 1))
    | _ => .error .brackets

/-- The characters that stand for text with a slash, a question mark, a number
sign, an at sign or a colon in it. -/
def deceptive : List Nat :=
  [0x2047, 0x2048, 0x2049, 0x2100, 0x2101, 0x2105, 0x2106, 0x2a74, 0xfe13, 0xfe16, 0xfe55, 0xfe56,
   0xfe5f, 0xfe6b, 0xff03, 0xff0f, 0xff1a, 0xff1f, 0xff20]

def checkCompatibility (authority : List Char) : Except UrlError Unit :=
  if authority.any (fun c => deceptive.contains c.toNat) then .error (.compatibility authority)
  else .ok ()

/-- The parts of a URL. Blanks in front, tabs and line ends anywhere, and what
follows a number sign do not count. -/
def split (l : List Char) : Except UrlError Url := do
  let l := (l.dropWhile (· ≤ ' ')).filter (fun c => c ≠ '\t' ∧ c ≠ '\n' ∧ c ≠ '\r')
  let (scheme, l) := splitScheme l
  let (authority, l) := splitAuthority l
  checkBrackets authority
  checkCompatibility authority
  let l := before '#' l
  pure { scheme, authority, path := before '?' l, query := behind '?' l }

/-! ### Authorities -/

/-- The small letter of a character in a host. Of those outside ASCII only the
Kelvin sign matters, whose small letter is ASCII; the others are folded when a name
is prepared. -/
def smallLetter (c : Char) : Char := if c.toNat = 0x212a then 'k' else c.toLower

/-- The host of an authority in small letters; the zone of an address keeps its
case. -/
def hostOf (authority : List Char) : List Char :=
  let server := serverOf authority
  let host :=
    if server.contains '[' then before ']' (behind '[' server) else before ':' server
  (before '%' host).map smallLetter ++ host.dropWhile (· ≠ '%')

def portText (authority : List Char) : List Char :=
  let server := serverOf authority
  if server.contains '[' then behind ':' (behind ']' (behind '[' server)) else behind ':' server

/-- The port of an authority, if it names one. -/
def portOf (authority : List Char) : Except UrlError (Option Nat) :=
  let text := portText authority
  let port := Text.ofAsciiDigits text
  if text.isEmpty then .ok none
  else if !text.all Char.isDigit then .error (.portForm text)
  else if Text.digitLimit < text.length then .error (.portDigits text.length)
  else if 65535 < port then .error .portRange
  else .ok (some port)

/-! ### Writing -/

/-- The user's name or password with its special characters as escapes. -/
def escapeUser (l : List Char) : List Char :=
  l.flatMap fun c =>
    if c.isAlphanum || "_.-~%!$&'()*+,;=".toList.contains c then [c]
    else (Text.Utf8.encodeChar c).flatMap (fun b => '%' :: Text.hex 2 b)

/-- The user of an authority, and the password behind a colon, with their special
characters as escapes. -/
def normalUser (user : List Char) : List Char :=
  if user.contains ':' then escapeUser (before ':' user) ++ ':' :: escapeUser (behind ':' user)
  else escapeUser user

/-- An authority in its normal form. A user or a port that is named is kept, be it
an empty name or the number 0. -/
def normalAuthority (authority : List Char) : Except UrlError (List Char) := do
  let host ← (Host.encodeName (hostOf authority)).mapError .name
  let port ← portOf authority
  let user := if authority.contains '@' then normalUser (userOf authority) ++ ['@'] else []
  let bracketed := if host.contains ':' then '[' :: host ++ [']'] else host
  let ending := match port with
    | some n => ':' :: (toString n).toList
    | none => []
  pure (user ++ bracketed ++ ending)

/-- The URL with its authority in normal form, without its query. -/
def write (u : Url) : Except UrlError (List Char) := do
  let authority ← normalAuthority u.authority
  let scheme := if u.scheme.isEmpty then [] else u.scheme ++ [':']
  let slashes := if authority.isEmpty then [] else ['/', '/']
  pure (scheme ++ slashes ++ authority ++ u.path)

/-! ### Escapes -/

/-- The character of an escape, if it is ASCII. -/
def ascii? (a b : Char) : Option Char := do
  let n := 16 * (← Text.hexValue? a) + (← Text.hexValue? b)
  if n < 128 then some (Char.ofNat n) else none

/-- A path with the escapes of ASCII characters resolved. -/
def unescape : List Char → List Char
  | '%' :: a :: b :: rest =>
      match ascii? a b with
      | some c => c :: unescape rest
      | none => '%' :: unescape (a :: b :: rest)
  | c :: rest => c :: unescape rest
  | [] => []

end Url

end Uniprocessor.Service
