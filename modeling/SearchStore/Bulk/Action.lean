import SearchStore.Json.Value

/-!
Actions of a bulk request. Each becomes one or two lines of the request: what
to do to which document, and the document if there is one. Documents are routed
by their id, in bulk as one by one.
-/

namespace SearchStore

inductive BulkAction where
  /-- Create or replace the document. -/
  | index (id : String) (document : Json)
  /-- Merge into the stored document. -/
  | update (id : String) (document : Json)
  | delete (id : String)
deriving Inhabited

namespace BulkAction

def id : BulkAction → String
  | .index id _ | .update id _ | .delete id => id

def header (kind index id : String) : Json :=
  .obj [(kind, .obj [("_index", .str index), ("_id", .str id), ("routing", .str id)])]

def lines (index : String) : BulkAction → List Json
  | .index id document => [header "index" index id, document]
  | .update id document => [header "update" index id, .obj [("doc", document)]]
  | .delete id => [header "delete" index id]

end BulkAction

end SearchStore
