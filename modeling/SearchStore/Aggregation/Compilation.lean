import SearchStore.Aggregation.Node
import SearchStore.Query.Compilation

/-!
The aggregations of a document type: for each property that is to be
aggregated its terms, or its least and greatest value, or how often it is true.
-/

namespace SearchStore

/-- The aggregations of one property. Properties of nested objects have their
terms counted, among the objects that the filter asks for. -/
def Descriptor.aggregations (d : Descriptor) (compiled : CompiledFilter) : List AggregationNode :=
  let orderKey := d.order.getD "_key"
  match d.wireNestedPath with
  | some path =>
    [.nestedTerms d.name path d.wireName d.exactField orderKey (compiled.scope? path)]
  | none =>
    if d.type.isNumeric then
      [.min (d.name ++ "Min") d.exactField, .max (d.name ++ "Max") d.exactField]
    else if d.type.isBoolean then [.avg (d.name ++ "Avg") d.exactField]
    else [.terms d.name d.exactField orderKey]

def DocumentSchema.aggregations (schema : DocumentSchema) (compiled : CompiledFilter) :
    List AggregationNode :=
  schema.aggregateTargets.flatMap (·.aggregations compiled)

end SearchStore
