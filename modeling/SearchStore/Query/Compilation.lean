import SearchStore.Filter.Basic
import SearchStore.Query.Basic
import SearchStore.Schema.Walk

/-!
From filters to queries. Every field that asks something of a known property
becomes one leaf. Leaves on properties of nested objects are besides collected
by path, in the order in which the paths come up, so that the objects that
match can be shown and counted.
-/

namespace SearchStore

/-- The leaves of a filter in the order of its fields, and one nested query for
each path among them. -/
structure CompiledFilter where
  must : List Query := []
  nested : List Query := []

namespace CompiledFilter

def scope? (compiled : CompiledFilter) (path : String) : Option Query :=
  compiled.nested.findSome? fun
    | .nested p query _ => if p = path then some query else none
    | _ => none

/-- The leaves are required, the nested queries only preferred. -/
def toQuery (compiled : CompiledFilter) : Query := .bool compiled.must compiled.nested

end CompiledFilter

/-- The leaf for a property. A range without a lower bound starts at zero. -/
def FilterValue.leaf (d : Descriptor) : FilterValue → Query
  | .range bounds => .range d.exactField (bounds.min.getD .zero) bounds.max
  | .text s => .textMatch d.wireName ("*" ++ s ++ "*")
  | .strings values => .terms d.exactField (values.map .str)
  | .list values => .terms d.exactField (values.map FieldValue.toJson)
  | .scalar value => .term d.exactField value.toJson

def FilterField.resolve? (field : FilterField) (schema : DocumentSchema) :
    Option (Descriptor × Query) := do
  if field.ignored then none
  else
    let value ← field.value
    let d ← schema.resolve field.lookupName
    return (d, value.leaf d)

namespace CompiledFilter

/-- Adds a leaf to the nested query of its path, or a nested query at the end. -/
def addNested (innerHitsSize : Nat) (path : String) (leaf : Query) : List Query → List Query
  | [] => [.nested path leaf innerHitsSize]
  | .nested p query size :: rest =>
    if p = path then .nested p (query.and leaf) size :: rest
    else .nested p query size :: addNested innerHitsSize path leaf rest
  | other :: rest => other :: addNested innerHitsSize path leaf rest

/-- Adds the leaf of one field: always to the leaves, and to a nested query if the
property has a path. -/
def add (innerHitsSize : Nat) (compiled : CompiledFilter) (d : Descriptor) (leaf : Query) :
    CompiledFilter where
  must := compiled.must ++ [leaf]
  nested :=
    match d.wireNestedPath with
    | some path => addNested innerHitsSize path leaf compiled.nested
    | none => compiled.nested

end CompiledFilter

namespace DocumentSchema

/-- Compiles a filter. Fields that ask nothing and fields of unknown properties
are passed over. -/
def compile (schema : DocumentSchema) (innerHitsSize : Nat) (filter : List FilterField) :
    CompiledFilter :=
  filter.foldl (fun compiled field =>
    match field.resolve? schema with
    | some (d, leaf) => compiled.add innerHitsSize d leaf
    | none => compiled) {}

end DocumentSchema

end SearchStore
