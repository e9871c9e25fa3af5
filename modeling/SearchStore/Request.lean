import SearchStore.Aggregation.Compilation
import SearchStore.Paging

/-!
Bodies of search requests for one document type.
-/

namespace SearchStore

/-- What the bodies depend on: the properties of the documents and how many
nested objects a match may show. -/
structure RequestBuilder where
  schema : DocumentSchema
  innerHitsSize : Nat

namespace RequestBuilder

def compile (requests : RequestBuilder) (filter : List FilterField) : CompiledFilter :=
  requests.schema.compile requests.innerHitsSize filter

def query (requests : RequestBuilder) (filter : List FilterField) : Json :=
  (requests.compile filter).toQuery.toJson

/-- The sort of a page; none when no path is given or no property has it. -/
def sort (requests : RequestBuilder) (paging : Paging) : Option Json := do
  let path ← paging.sortBy.filter (· ≠ "")
  let d ← requests.schema.resolveSort path
  let nested := match d.wireNestedPath with
    | some path => [("nested", Json.obj [("path", .str path)])]
    | none => []
  return .arr [.obj [(d.exactField, .obj (("order", .str paging.order) :: nested))]]

def searchBody (requests : RequestBuilder) (filter : List FilterField) (paging : Paging) : Json :=
  let sort := match requests.sort paging with
    | some sort => [("sort", sort)]
    | none => []
  .obj ([("query", requests.query filter), ("size", .int paging.size), ("from", .int paging.start),
    ("_source", .bool true), ("version", .bool true)] ++ sort)

def countBody (requests : RequestBuilder) (filter : List FilterField) : Json :=
  .obj [("query", requests.query filter)]

/-- A search for no documents, only for the aggregations of the type. -/
def aggregationBody (requests : RequestBuilder) (filter : List FilterField) : Json :=
  let compiled := requests.compile filter
  .obj [("size", .int 0), ("from", .int 0), ("query", compiled.toQuery.toJson),
    ("aggs", AggregationNode.render (requests.schema.aggregations compiled))]

end RequestBuilder

end SearchStore
