import SearchStore.Filter.Basic
import SearchStore.Json.Decoding

/-!
Filters as they are kept in documents. A filter value is an object whose one
key says which kind it is. A plain value has no such mark: a string, an integer
of 64 bits, any other number and a boolean are told apart by what they are, and
a decimal is kept as the string of its digits.
-/

namespace SearchStore

namespace FieldValue

def ofStored? : Json → Option FieldValue
  | .str s => some (.string s)
  | .bool b => some (.boolean b)
  | .int i => if Json.IsSigned64 i then some (.long i) else some (.double (.ofInt i))
  | .double x => some (.double x)
  | _ => none

def toStored : FieldValue → Json
  | .string s => .str s
  | .long n => .int n
  | .double x => .ofDouble x
  | .decimal d => .str d.text
  | .boolean b => .bool b

end FieldValue

namespace RangeFilter

def ofStored? (stored : Json) : Option RangeFilter := do
  let members ← stored.asObject?
  return {
    min := ← Json.optional Json.asDouble? members "min"
    max := ← Json.optional Json.asDouble? members "max"
  }

def toStored (bounds : RangeFilter) : Json :=
  .obj [("min", .ofOption .ofDouble bounds.min), ("max", .ofOption .ofDouble bounds.max)]

end RangeFilter

namespace FilterValue

def ofStored? (stored : Json) : Option FilterValue := do
  match ← stored.asObject? with
  | [("Range", v)] => (RangeFilter.ofStored? v).map .range
  | [("Text", v)] => v.asString?.map .text
  | [("StringList", v)] => (Json.listOf Json.asString? v).map .strings
  | [("List", v)] => (Json.listOf FieldValue.ofStored? v).map .list
  | [("Scalar", v)] => (FieldValue.ofStored? v).map .scalar
  | _ => none

def toStored : FilterValue → Json
  | .range bounds => .obj [("Range", bounds.toStored)]
  | .text s => .obj [("Text", .str s)]
  | .strings values => .obj [("StringList", .strings values)]
  | .list values => .obj [("List", .arr (values.map FieldValue.toStored))]
  | .scalar value => .obj [("Scalar", value.toStored)]

end FilterValue

namespace FilterField

/-- Reads a field. The path and the value may be left out, whether the field is
ignored may not. -/
def ofStored? (stored : Json) : Option FilterField := do
  let members ← stored.asObject?
  return {
    name := ← Json.required Json.asString? members "name"
    nested := ← Json.optional Json.asString? members "nested"
    ignored := ← Json.required Json.asBool? members "ignore"
    value := ← Json.optional FilterValue.ofStored? members "value"
  }

def toStored (field : FilterField) : Json :=
  .obj [("name", .str field.name), ("nested", .ofOption .str field.nested),
    ("ignore", .bool field.ignored), ("value", .ofOption FilterValue.toStored field.value)]

end FilterField

end SearchStore
