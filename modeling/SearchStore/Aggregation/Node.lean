import SearchStore.Query.Basic

/-!
Aggregations of a request, each under its name. The terms of a property of
nested objects are asked for inside a container for their path, and inside a
filter when only some of the objects are to be counted.
-/

namespace SearchStore

inductive AggregationNode where
  | terms (name field orderKey : String)
  | nestedTerms (name path innerName field orderKey : String) (scope : Option Query)
  | min (name field : String)
  | max (name field : String)
  | avg (name field : String)

namespace AggregationNode

def name : AggregationNode → String
  | .terms name .. | .nestedTerms name .. | .min name _ | .max name _ | .avg name _ => name

/-- All terms of a field in ascending order of a key. -/
def termsJson (field orderKey : String) : Json :=
  .obj [("terms", .obj [("field", .str field), ("size", .int 2147483647),
    ("order", .obj [(orderKey, .str "asc")])])]

def metricJson (kind field : String) : Json := .obj [(kind, .obj [("field", .str field)])]

def groupByKey : String := "group_by"

/-- The aggregation without its name. -/
def toJson : AggregationNode → Json
  | .terms _ field orderKey => termsJson field orderKey
  | .nestedTerms _ path innerName field orderKey scope =>
    let inner : Json := .obj [(innerName, termsJson field orderKey)]
    let aggs := match scope with
      | some scope =>
        .obj [(groupByKey, .obj [("filter", scope.toJson), ("aggs", inner)])]
      | none => inner
    .obj [("nested", .obj [("path", .str path)]), ("aggs", aggs)]
  | .min _ field => metricJson "min" field
  | .max _ field => metricJson "max" field
  | .avg _ field => metricJson "avg" field

/-- The aggregations of a request by name. Of two with one name the first keeps
its place and the second its content. -/
def render (nodes : List AggregationNode) : Json :=
  .ofMembers (nodes.map fun node => (node.name, node.toJson))

end AggregationNode

end SearchStore
