import SearchStore.Engine
import SearchStore.Text.Base64
import SearchStore.Text.Percent

/-!
Calls of the engine as requests over HTTP, and what the responses to them mean.
A request is made from its call alone. A response is read in the light of the
call: some calls take a missing document for an answer, all others for an error.
-/

namespace SearchStore.Http

inductive Method where
  | head
  | get
  | post
  | put
  | delete
deriving DecidableEq, Repr

def Method.text : Method → String
  | .head => "HEAD"
  | .get => "GET"
  | .post => "POST"
  | .put => "PUT"
  | .delete => "DELETE"

inductive Body where
  | none
  | json (document : Json)
  /-- One document to a line. -/
  | lines (documents : List Json)

/-- A request, its path already encoded. -/
structure Request where
  method : Method
  path : String
  query : Option String := none
  body : Body := .none

def Request.target (request : Request) : String :=
  match request.query with
  | some query => request.path ++ "?" ++ query
  | none => request.path

structure Response where
  status : Nat
  body : String

/-- The value of the header that carries user and password. -/
def basicAuthorization (user password : String) : String :=
  "Basic " ++ String.ofList (Text.Base64.encode (user ++ ":" ++ password).toUTF8.data.toList)

/-- A path from its segments, of which names are encoded. -/
def path (segments : List String) : String :=
  String.join (segments.map fun segment => "/" ++ Text.pathSegment segment)

def documentRequest (method : Method) (verb : String) (document : DocumentRef)
    (body : Body := .none) : Request where
  method := method
  path := path [document.index, verb, document.id]
  query := some ("routing=" ++ Text.formValue document.routing)
  body := body

def request : Engine.Call → Request
  | .documentExists document => documentRequest .head "_doc" document
  | .getDocument document => documentRequest .get "_doc" document
  | .count index body => { method := .post, path := path [index, "_count"], body := .json body }
  | .search index body => { method := .post, path := path [index, "_search"], body := .json body }
  | .indexDocument document content => documentRequest .post "_doc" document (.json content)
  | .updateDocument document part =>
    documentRequest .post "_update" document (.json (.obj [("doc", part)]))
  | .deleteDocument document => documentRequest .delete "_doc" document
  | .bulk index actions =>
    { method := .post, path := path [index, "_bulk"]
      body := .lines (actions.flatMap (·.lines index)) }
  | .deleteByQuery index query =>
    { method := .post, path := path [index, "_delete_by_query"]
      body := .json (.obj [("query", query)]) }
  | .putSettings index settings =>
    { method := .put, path := path [index, "_settings"], body := .json settings }
  | .indexExists index => { method := .head, path := path [index] }
  | .createIndex index body => { method := .put, path := path [index], body := .json body }
  | .deleteIndex index => { method := .delete, path := path [index] }
  | .getAlias name => { method := .get, path := path ["_alias", name] }
  | .deleteAlias name => { method := .delete, path := path ["_all", "_alias", name] }
  | .indexStats index => { method := .get, path := path [index, "_stats"] }
  | .getLifecycle policy => { method := .get, path := path ["_ilm", "policy", policy] }
  | .putLifecycle policy body =>
    { method := .put, path := path ["_ilm", "policy", policy], body := .json body }
  | .putIndexTemplate name body =>
    { method := .put, path := path ["_index_template", name], body := .json body }
  | .clusterHealth index => { method := .get, path := path ["_cluster", "health", index] }

namespace Response

def ensureSuccess (response : Response) : Except EngineError Unit :=
  if isSuccessStatus response.status then .ok ()
  else .error (responseError response.status response.body)

def document (response : Response) : Except EngineError Json := do
  response.ensureSuccess
  match Json.read? response.body with
  | some document => return document
  | none => throw (.unexpected "the body is not a document")

def presence (response : Response) : Except EngineError Bool :=
  if response.status = 404 then .ok false else response.ensureSuccess.map fun _ => true

end Response

def read : (call : Engine.Call) → Response → Except EngineError call.Answer
  | .documentExists _, response | .indexExists _, response => response.presence
  | .getDocument _, response =>
    if response.status = 404 then .ok none else response.document.map some
  | .count .., response => do
    match ((← response.document).get? "count").bind (Json.asUnsigned? 64) with
    | some n => return n
    | none => throw (.unexpected "count response without a count")
  | .search .., response | .indexStats _, response | .clusterHealth _, response =>
    response.document
  | .bulk .., response =>
    .ok (BulkResponse.ofJson response.status ((Json.read? response.body).getD (.str response.body)))
  | .getAlias _, response =>
    if response.status = 404 then .ok []
    else response.document.map fun document => (document.asObject?.getD []).map (·.1)
  | .getLifecycle policy, response =>
    if response.status = 404 then .ok none else response.document.map (·.get? policy)
  | .indexDocument .., response | .updateDocument .., response | .deleteDocument _, response
  | .deleteByQuery .., response | .putSettings .., response | .createIndex .., response
  | .deleteIndex _, response | .deleteAlias _, response | .putLifecycle .., response
  | .putIndexTemplate .., response => response.ensureSuccess

end SearchStore.Http
