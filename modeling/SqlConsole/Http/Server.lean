import SqlConsole.Http.Address
import SqlConsole.Http.Endpoint
import SqlConsole.Json
import SqlConsole.Selection.Execution
import SqlConsole.Statement.Parse
import SqlConsole.Suggestion.Candidates

/-!
# The service

The catalog over HTTP: listings of its contents, queries and completions.
-/

namespace SqlConsole.Http

structure Request where
  method : Text
  target : Text
  body : Option (List UInt8) := none
  contentType : Text := "application/json"
  deriving DecidableEq

/-- A response; it may have no document as its body. -/
structure Response where
  status : Nat
  body : Option Value
  deriving DecidableEq

namespace Response

def ok (entries : List (Text × Value)) : Response := ⟨200, some (.mapping entries)⟩

def error (status : Nat) (text : Text) : Response :=
  ⟨status, some (.mapping [("error", .text text)])⟩

def methodNotAllowed : Response :=
  ⟨405, some (.mapping [("message", .text "The method is not allowed for the requested URL.")])⟩

def internalError : Response := ⟨500, some (.mapping [("message", .text "Internal Server Error")])⟩

def moved : Response := ⟨308, none⟩

def badRequest : Response := ⟨400, none⟩

def notFound : Response := ⟨404, none⟩

def withoutBody (r : Response) : Response := { r with body := none }

end Response

/-! ### Bodies of requests -/

def isJson (contentType : Text) : Bool :=
  let type := (Text.trim (contentType.takeWhile (· != .char ';'))).lower
  type == "application/json" ||
    ("application/" : Text).isPrefixOf type && ("+json" : Text).isSuffixOf type

/-- The document of a request, unless it is nested too deep. It counts as an empty object if there
is none or nothing is given by it. -/
def Request.document? (depth : Nat) (request : Request) : Option Value :=
  match if isJson request.contentType then request.body.bind Text.ofBytes? else none with
  | none => some (.mapping [])
  | some t =>
    match Json.read depth t with
    | .ok v => some (if v.isGiven then v else .mapping [])
    | .error .tooDeep => none
    | .error _ => some (.mapping [])

def Request.withEntries (depth : Nat) (request : Request)
    (response : List (Text × Value) → Response) : Response :=
  match (request.document? depth).bind Value.entries? with
  | some entries => response entries
  | none => .internalError

/-! ### Endpoints -/

def outlineOf (catalog : Catalog) (database : Option Text) : Response :=
  match database.filter (· != []) with
  | none => .error 400 "Database name is required"
  | some name =>
    match catalog.database? name with
    | none => .error 404 "Database not found"
    | some database => .ok [("structure", database.outline)]

/-- A row as an object; of columns of one name the last one counts. -/
def rowObject (columns : List Text) (row : List Value) : Value :=
  .mapping (Keyed.ofList (columns.zip row))

def runQuery (catalog : Catalog) (database query : Text) : Response :=
  match Statement.parse query with
  | .error _ => .internalError
  | .ok statement =>
    match statement.map Statement.request with
    | none | some (.refused _ _) => .error 400 "Invalid query"
    | some (.select selection) =>
      match catalog.run selection (some database) with
      | .ok answer =>
        .ok [("result", .list (answer.rows.map (rowObject answer.columns))),
          ("columns", .list (answer.columns.map .text))]
      | .error _ => .error 500 "Query execution failed"
    | some _ => .error 400 "Unsupported query type"

def query (catalog : Catalog) (entries : List (Text × Value)) : Response :=
  let database := (Keyed.get? entries "dbName").getD .null
  let text := (Keyed.get? entries "query").getD .null
  if !database.isGiven || !text.isGiven then .error 400 "Database name and query are required"
  else if !database.isScalar then .internalError
  else
    match database.text?.filter catalog.hasDatabase with
    | none => .error 404 "Database not found"
    | some database =>
      match text.text? with
      | none => .internalError
      | some text => runQuery catalog database text

def completions (catalog : Catalog) (entries : List (Text × Value)) : Response :=
  let database := (Keyed.get? entries "dbName").getD .null
  match ((Keyed.get? entries "text").getD (.text [])).text? with
  | none => .internalError
  | some text =>
    if Suggestion.needsDatabase (Suggestion.contextOf text) && !database.isScalar then
      .internalError
    else
      .ok [("completions",
        .list ((Suggestion.complete catalog text database.text?).map .text))]

def Endpoint.respond (depth : Nat) (catalog : Catalog) (address : Address) (request : Request) :
    Endpoint → Response
  | .databases => .ok [("databases", .list (catalog.databaseNames.map .text))]
  | .outline => outlineOf catalog (address.parameter? "dbName")
  | .contents => ⟨200, some catalog.dataset.toValue⟩
  | .query => request.withEntries depth (Http.query catalog)
  | .completions => request.withEntries depth (Http.completions catalog)
  | .files => .notFound

/-! ### Requests -/

def Endpoint.refusal : Endpoint → Response
  | .files => Response.methodNotAllowed.withoutBody
  | _ => .methodNotAllowed

def answer (depth : Nat) (catalog : Catalog) (request : Request) : Response :=
  let address := Address.ofTarget request.target
  match Route.ofPath? address.path with
  | none => .notFound
  | some ⟨endpoint, moved⟩ =>
    let method := Method.ofName request.method
    if !endpoint.allows method then endpoint.refusal
    else if address.isSocket then .badRequest
    else if moved then .moved
    else if method = .options then ⟨200, none⟩
    else endpoint.respond depth catalog address request

/-- The response to a request whose body may be nested `depth` deep. The body of the response is
held back from a request that asks for its head in capitals. -/
def respond (depth : Nat) (catalog : Catalog) (request : Request) : Response :=
  let response := answer depth catalog request
  if request.method = "HEAD" then response.withoutBody else response

end SqlConsole.Http
