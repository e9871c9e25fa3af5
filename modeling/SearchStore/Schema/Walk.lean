import SearchStore.Schema.Basic

/-!
From a table of types to the list of properties of a document. Every property
is listed once for each way to reach it, a type's own properties in order and
what lies under a property right after it. A type that is already being walked
is not entered again, so the walk ends on cyclic tables too: each type entered
takes one name off the finite list of those not yet on the way.
-/

namespace SearchStore.Schema

/-- The types of the table whose name is not on the way from the root. -/
def unvisited (table : TypeTable) (visiting : List String) : List TypeSchema :=
  table.filter fun type => type.name ∉ visiting

theorem length_unvisited_cons_lt {table : TypeTable} {visiting : List String} {type : TypeSchema}
    (hmem : type ∈ table) (hnew : type.name ∉ visiting) :
    (unvisited table (type.name :: visiting)).length < (unvisited table visiting).length := by
  have hsub : (unvisited table (type.name :: visiting)).Sublist (unvisited table visiting) := by
    unfold unvisited
    have heq : (table.filter fun t => decide (t.name ∉ type.name :: visiting)) =
        (table.filter fun t => decide (t.name ∉ visiting)).filter
          fun t => decide (t.name ≠ type.name) := by
      rw [List.filter_filter]
      apply List.filter_congr
      intro t _
      by_cases h : t.name = type.name <;> simp [h]
    rw [heq]
    exact List.filter_sublist
  rcases Nat.lt_or_eq_of_le hsub.length_le with hlt | heq
  · exact hlt
  · have hsame := hsub.eq_of_length heq
    have hin : type ∈ unvisited table visiting := by simp [unvisited, hmem, hnew]
    rw [← hsame] at hin
    simp [unvisited] at hin

abbrev Unvisited (table : TypeTable) (visiting : List String) :=
  { type : TypeSchema // type ∈ table ∧ type.name ∉ visiting }

def joinPath (path : Option String) (name : String) : String :=
  match path with
  | some path => path ++ "." ++ name
  | none => name

def describe (typeName : String) (path : Option String) (property : PropertySchema) :
    Descriptor where
  declaringType := typeName
  name := property.name
  fullPath := joinPath path property.name
  type := property.type
  nestedPath := path
  isAggregateTarget := property.aggregate.isSome
  groupBy := property.aggregate.bind fun spec => spec.groupBy.map Naming.camelPath
  order := property.aggregate.map fun spec => Naming.camelPath spec.order

/-- The first defect of a property by itself: no name, the name of an earlier
property of its type, or a blank order for its aggregation. -/
def checkProperty (typeName : String) (path : Option String) (earlier : List String)
    (property : PropertySchema) : Except SchemaError Unit :=
  if Text.isBlank property.name then .error (.missingPropertyName typeName)
  else if property.name ∈ earlier then .error (.duplicateProperty typeName property.name)
  else if property.aggregate.any fun spec => Text.isBlank spec.order then
    .error (.emptyAggregateOrder (joinPath path property.name))
  else .ok ()

mutual

def walkType (table : TypeTable) (visiting : List String) (path : Option String)
    (type : Unvisited table visiting) : Except SchemaError (List Descriptor) :=
  if Text.isBlank type.val.name then .error (.missingTypeName (path.getD "<root>"))
  else walkProperties table (type.val.name :: visiting) path type.val.name [] type.val.properties
termination_by ((unvisited table visiting).length, 0)
decreasing_by
  apply Prod.Lex.left
  exact length_unvisited_cons_lt type.property.1 type.property.2

/-- The remaining properties of a type, each followed by what lies under it. -/
def walkProperties (table : TypeTable) (visiting : List String) (path : Option String)
    (typeName : String) (earlier : List String) :
    List PropertySchema → Except SchemaError (List Descriptor)
  | [] => .ok []
  | property :: rest => do
    checkProperty typeName path earlier property
    let here := describe typeName path property
    let below ← match property.type.element? with
      | none => .ok []
      | some entry =>
        match h : table[entry]? with
        | none => .error (.missingTypeName here.fullPath)
        | some child =>
          if hvisited : child.name ∈ visiting then .ok []
          else
            walkType table visiting (some here.fullPath) ⟨child, List.mem_of_getElem? h, hvisited⟩
    let after ← walkProperties table visiting path typeName (property.name :: earlier) rest
    return here :: below ++ after
termination_by properties => ((unvisited table visiting).length, properties.length + 1)

end

def descriptors (table : TypeTable) : Except SchemaError (List Descriptor) :=
  match h : table.head? with
  | none => .error (.missingTypeName "<root>")
  | some root => walkType table [] none ⟨root, List.mem_of_head? h, by simp⟩

end SearchStore.Schema

namespace SearchStore

/-- A table of types without defect, with the properties it describes. -/
structure DocumentSchema where
  typeName : String
  descriptors : List Descriptor
deriving DecidableEq, Repr

namespace DocumentSchema

/-- The properties of a table, or its first defect in the order of the walk. -/
def build (table : TypeTable) : Except SchemaError DocumentSchema := do
  return ⟨table.root.name, ← Schema.descriptors table⟩

/-- The property that a filter names: by its full path, or else the first one
with that name. -/
def resolve (schema : DocumentSchema) (name : String) : Option Descriptor :=
  (schema.descriptors.find? (·.fullPath = name)).or (schema.descriptors.find? (·.name = name))

/-- The property at a sort path, whatever the case of its ASCII letters. -/
def resolveSort (schema : DocumentSchema) (path : String) : Option Descriptor :=
  schema.descriptors.find? fun d => Text.eqIgnoringAsciiCase d.fullPath path

def aggregateTargets (schema : DocumentSchema) : List Descriptor :=
  schema.descriptors.filter (·.isAggregateTarget)

end DocumentSchema

end SearchStore
