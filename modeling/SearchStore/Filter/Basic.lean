import SearchStore.Calendar
import SearchStore.Decimal
import SearchStore.Json.Value
import SearchStore.Uuid

/-!
Filters. A filter is a list of fields; each names a property and says what is
asked of it. A field without a value, or one that is to be ignored, asks
nothing.
-/

namespace SearchStore

inductive FieldValue where
  | string (s : String)
  | long (n : Int)
  | double (x : Binary64)
  | decimal (d : Decimal)
  | boolean (b : Bool)
deriving DecidableEq, Repr

namespace FieldValue

/-- The value as a query carries it. A decimal without fraction that fits 64
bits is an integer, any other the nearest double. -/
def toJson : FieldValue → Json
  | .string s => .str s
  | .long n => .int n
  | .double x => .ofDouble x
  | .decimal d =>
    match d.toInt? with
    | some n => if Json.IsSigned64 n then .int n else .ofDouble d.toBinary64
    | none => .ofDouble d.toBinary64
  | .boolean b => .bool b

def ofInstant (instant : Instant) : FieldValue := .string instant.text

end FieldValue

/-- Bounds of a number, neither of which belongs to the range. -/
structure RangeFilter where
  min : Option Binary64 := none
  max : Option Binary64 := none
deriving DecidableEq, Repr

inductive FilterValue where
  | range (bounds : RangeFilter)
  /-- The text occurs in the property. -/
  | text (s : String)
  /-- The property is one of the strings. -/
  | strings (values : List String)
  /-- The property is one of the values. -/
  | list (values : List FieldValue)
  /-- The property is the value. -/
  | scalar (value : FieldValue)
deriving DecidableEq, Repr

/-- What a filter asks of one property. Without a value it asks nothing. -/
structure FilterField where
  name : String
  /-- The path by which the property is looked up instead of the name. -/
  nested : Option String := none
  ignored : Bool := false
  value : Option FilterValue := none
deriving DecidableEq, Repr

def FilterField.lookupName (field : FilterField) : String := field.nested.getD field.name

end SearchStore
