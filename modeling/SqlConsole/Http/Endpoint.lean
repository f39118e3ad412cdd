import SqlConsole.Text.Uppercase

/-!
# Endpoints

What the service offers, under which path and to which method. A path with needless slashes is led
to the endpoint without them (`Route.ofPath?`).
-/

namespace SqlConsole.Http

inductive Method where
  | get
  | head
  | post
  | options
  | other
  deriving DecidableEq, Repr

def Method.ofName (name : Text) : Method :=
  let name := name.asciiUpper
  if name = "GET" then get
  else if name = "HEAD" then head
  else if name = "POST" then post
  else if name = "OPTIONS" then options
  else other

inductive Endpoint where
  | databases
  | outline
  | contents
  | query
  | completions
  /-- The files below a directory. There are none. -/
  | files
  deriving DecidableEq, Repr

namespace Endpoint

def method : Endpoint → Method
  | query => .post
  | completions => .post
  | _ => .get

/-- Whether a method is allowed: what may be asked for may also be asked about. -/
def allows (endpoint : Endpoint) : Method → Bool
  | .options => true
  | .head => endpoint.method == .get
  | method => endpoint.method == method

def paths : List (Text × Endpoint) := [
  ("/api/databases", databases), ("/api/database-structure", outline),
  ("/api/personal-data", contents), ("/api/query", query), ("/api/completions", completions)]

def directory : Text := "/static/"

/-- Whether a path names a file: what follows the directory does not start with a slash and has no
newline after its first character. -/
def isFile (path : Text) : Bool :=
  directory.isPrefixOf path &&
    match path.drop directory.length with
    | [] => false
    | c :: cs => c != '/' && !cs.contains (.char '\n')

def ofPath? (path : Text) : Option Endpoint :=
  match paths.lookup path with
  | some endpoint => some endpoint
  | none => if isFile path then some files else none

end Endpoint

/-! ### Needless slashes -/

def withOneSlash (path : Text) : Text := '/' :: path.dropWhile (· == .char '/')

/-- A path in which each two slashes in a row are one. -/
def mergeSlashes : Text → Text
  | .char '/' :: .char '/' :: rest => '/' :: mergeSlashes rest
  | c :: rest => c :: mergeSlashes rest
  | [] => []

structure Route where
  endpoint : Endpoint
  moved : Bool
  deriving DecidableEq

def Route.ofPath? (path : Text) : Option Route :=
  match Endpoint.ofPath? (withOneSlash path) with
  | some endpoint => some ⟨endpoint, false⟩
  | none => (Endpoint.ofPath? (mergeSlashes (withOneSlash path))).map (⟨·, true⟩)

end SqlConsole.Http
