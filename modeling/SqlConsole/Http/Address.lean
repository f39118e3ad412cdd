import SqlConsole.Http.Percent
import SqlConsole.Text.Lowercase

/-!
# Addresses

What the target of a request names: a scheme, a path and parameters. A target is a reference, which
is cut into its parts (`Reference.ofText`). The path of a reference is read as a reference in turn,
so a target may name its host more than once.
-/

namespace SqlConsole.Http

/-! ### References -/

/-- The parts of a reference; a part that is not there is empty. -/
structure Reference where
  scheme : Text
  authority : Text
  path : Text
  query : Text
  deriving DecidableEq

def isKept (c : CodePoint) : Bool := c != '\t' && c != '\n' && c != '\r'

def isSchemeChar (c : CodePoint) : Bool := c.isAsciiAlphanum || c == '+' || c == '-' || c == '.'

/-- The scheme in front of a text, in lower case, and what follows its colon. A scheme starts with a
letter. -/
def cutScheme (t : Text) : Text × Text :=
  match t.span (· != .char ':') with
  | (c :: cs, _ :: rest) =>
    if c.isAsciiAlphanum && !c.isDigit && cs.all isSchemeChar then (Text.lower (c :: cs), rest)
    else ([], t)
  | _ => ([], t)

def cutAuthority : Text → Text × Text
  | .char '/' :: .char '/' :: rest => rest.span fun c => c != '/' && c != '?' && c != '#'
  | t => ([], t)

/-- The parts before and after the first occurrence of a code point; without one, all is before. -/
def cutAtFirst (mark : CodePoint) (t : Text) : Text × Text :=
  (t.takeWhile (· != mark), (t.dropWhile (· != mark)).drop 1)

def between (before part after : Text) : Text :=
  if part = [] then [] else before ++ part ++ after

namespace Reference

/-- The reference that a text is. What follows a number sign is left out, and so are the controls
and spaces in front and the controls that may stand nowhere. -/
def ofText (t : Text) : Reference :=
  let (scheme, rest) := cutScheme ((t.dropWhile (·.code ≤ 0x20)).filter isKept)
  let (authority, rest) := cutAuthority rest
  let (path, query) := cutAtFirst '?' (cutAtFirst '#' rest).1
  ⟨scheme, authority, path, query⟩

def target (r : Reference) : Text := r.path ++ between "?" r.query []

end Reference

/-! ### Paths that are references -/

/-- The user and the host with its port that an authority names. The user ends at the last at
sign. -/
def cutUser (authority : Text) : Text × Text :=
  match authority.reverse.span (· != .char '@') with
  | (host, _ :: user) => (user.reverse, host.reverse)
  | (_, []) => ([], authority)

/-- A host in lower case, but for what follows a percent sign. -/
def plainHost (host : Text) : Text :=
  let (name, rest) := host.span (· != .char '%')
  Text.lower name ++ rest

/-- An authority in its plain form: a user without a name and the port zero are left out. -/
def plainAuthority (authority : Text) : Text :=
  let (user, place) := cutUser authority
  let (host, port) := cutAtFirst ':' place
  let user := if (cutAtFirst ':' user).1 = [] then [] else user
  let port := if port.natural = 0 then [] else Text.decimal port.natural
  between [] user "@" ++ plainHost host ++ between ":" port []

/-- A path in its plain form. A scheme and an authority in front of it are a part of it. -/
def plainPath (path : Text) : Text :=
  let r := Reference.ofText path
  between [] r.scheme ":" ++ between "//" (plainAuthority r.authority) [] ++ r.path

/-! ### Addresses -/

structure Address where
  scheme : Text
  path : Text
  parameters : List (Text × Text)
  deriving DecidableEq

def parameterText (t : Text) : Text :=
  decode (t.map fun (c : CodePoint) => if c = '+' then ' ' else c)

/-- A parameter; without an equals sign its value is empty. -/
def parameterOf (t : Text) : Text × Text :=
  (parameterText (cutAtFirst '=' t).1, parameterText (cutAtFirst '=' t).2)

namespace Address

/-- The address of a target. The scheme is that of the whole target; the path and the parameters are
those of what follows the authority. -/
def ofTarget (target : Text) : Address :=
  let outer := Reference.ofText target
  let inner := Reference.ofText outer.target
  { scheme := outer.scheme
    path := decode (plainPath inner.path)
    parameters := ((Text.cutAt '&' inner.query).filter (· != [])).map parameterOf }

/-- The first value of a parameter. -/
def parameter? (address : Address) (name : Text) : Option Text := address.parameters.lookup name

def isSocket (address : Address) : Bool := address.scheme == "ws" || address.scheme == "wss"

end Address

end SqlConsole.Http
