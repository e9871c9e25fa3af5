import SearchStore.Proofs.Query.Grouping
import SearchStore.Proofs.Schema.CamelCase
import SearchStore.Proofs.Schema.Paths
import SearchStore.Request

/-!
Names that are left of those declared. A table is refused for blank names and blank order
keys, but what documents carry is put together from segments, and of a text that is
nothing but dots and white space no segment is left. So every property has a name in the
documents exactly if each declared name and order key holds some other character. If they
do, no request asks for a field without a name.
-/

namespace SearchStore

open Schema

/-- Something is left of the name of a property, and of the key by which its terms are
ordered. -/
structure PropertySchema.IsNamed (property : PropertySchema) : Prop where
  name : Naming.IsNamed property.name
  order : ∀ spec, property.aggregate = some spec → Naming.IsNamed spec.order

/-- A property that requests can name: by a path, below the path of its object if it has
one, and with a key to order its terms by if it is to be aggregated. -/
structure Descriptor.WireNamed (d : Descriptor) : Prop where
  wireName_ne_empty : d.wireName ≠ ""
  wireName_extends : ∀ path, d.wireNestedPath = some path →
    ∃ rest, rest ≠ "" ∧ d.wireName = path ++ "." ++ rest
  order_ne_empty : d.isAggregateTarget = true → ∃ key, d.order = some key ∧ key ≠ ""

/-- All properties that the walk from the document comes to are named. -/
def TypeTable.IsNamed (table : TypeTable) : Prop :=
  ∀ earlier last, Chain.Declared table table.root (earlier ++ [last]) →
    (Chain.typeNames (earlier ++ [last])).Nodup → last.property.IsNamed

namespace Descriptor

variable {typeName : String} {path : Option String} {property : PropertySchema}

theorem wireNestedPath_ne_empty {d : Descriptor} {place : String}
    (h : d.wireNestedPath = some place) : place ≠ "" := by
  obtain ⟨-, hplace⟩ := Option.filter_eq_some_iff.mp h
  exact of_decide_eq_true hplace

/-- A property whose object has no path left is named by itself. -/
theorem wireName_describe_of_none (h : (describe typeName path property).wireNestedPath = none) :
    (describe typeName path property).wireName = Naming.camelPath property.name := by
  cases path with
  | none => rfl
  | some path =>
    have hpath : Naming.camelPath path = "" := by
      simpa [wireNestedPath, describe, Option.filter_some] using h
    rw [wireName, describe, joinPath, Naming.camelPath_append, if_pos hpath]

/-- The name of a property in an object comes after the path of the object, if anything is
left of it. -/
theorem wireName_describe_of_some {place : String}
    (h : (describe typeName path property).wireNestedPath = some place) :
    (describe typeName path property).wireName =
      if Naming.camelPath property.name = "" then place
      else place ++ "." ++ Naming.camelPath property.name := by
  obtain ⟨hplace, -⟩ := Option.filter_eq_some_iff.mp h
  obtain ⟨path, rfl, rfl⟩ := Option.map_eq_some_iff.mp hplace
  rw [wireName, describe, joinPath, Naming.camelPath_append, if_neg (wireNestedPath_ne_empty h)]

/-- Nothing that goes on after a text is that text. -/
theorem ne_append_dot (place rest : String) : place ≠ place ++ "." ++ rest := by
  intro h
  have hlength := congrArg String.length h
  rw [String.length_append, String.length_append] at hlength
  have hdot : ".".length = 1 := by decide
  omega

theorem wireNamed_describe_iff :
    (describe typeName path property).WireNamed ↔ property.IsNamed := by
  constructor
  · intro h
    refine ⟨(Naming.camelPath_ne_empty_iff _).mp fun hempty => ?_, fun spec hspec => ?_⟩
    · cases hplace : (describe typeName path property).wireNestedPath with
      | none => exact h.wireName_ne_empty ((wireName_describe_of_none hplace).trans hempty)
      | some place =>
        obtain ⟨rest, -, hextends⟩ := h.wireName_extends place hplace
        rw [wireName_describe_of_some hplace, if_pos hempty] at hextends
        exact ne_append_dot place rest hextends
    · obtain ⟨key, hkey, hne⟩ := h.order_ne_empty (by rw [describe, hspec]; rfl)
      rw [describe, hspec, Option.map_some, Option.some.injEq] at hkey
      exact (Naming.camelPath_ne_empty_iff _).mp (hkey ▸ hne)
  · intro h
    have hname := (Naming.camelPath_ne_empty_iff _).mpr h.name
    have hextends : ∀ place, (describe typeName path property).wireNestedPath = some place →
        (describe typeName path property).wireName =
          place ++ "." ++ Naming.camelPath property.name := fun place hplace =>
      (wireName_describe_of_some hplace).trans (if_neg hname)
    refine ⟨?_, fun place hplace => ⟨_, hname, hextends place hplace⟩, fun htarget => ?_⟩
    · cases hplace : (describe typeName path property).wireNestedPath with
      | none => rwa [wireName_describe_of_none hplace]
      | some place => simp [hextends place hplace]
    · obtain ⟨spec, hspec⟩ := Option.isSome_iff_exists.mp htarget
      refine ⟨Naming.camelPath spec.order, by rw [describe, hspec]; rfl, ?_⟩
      exact (Naming.camelPath_ne_empty_iff _).mpr (h.order spec hspec)

end Descriptor

theorem TypeTable.isNamed_iff {table : TypeTable} {schema : DocumentSchema}
    (hbuild : DocumentSchema.build table = .ok schema) :
    (∀ d ∈ schema.descriptors, d.WireNamed) ↔ table.IsNamed := by
  obtain ⟨chains, hmem, -, hleads⟩ := Chain.exists_listing_build hbuild
  constructor
  · intro h earlier last hdeclared hnodup
    obtain ⟨d, hd, earlier', last', hsame, rfl⟩ :=
      Chain.exists_led hleads ((hmem _).mpr ⟨hdeclared, hnodup⟩)
    obtain ⟨rfl, ⟨⟩⟩ := List.append_inj' hsame rfl
    exact Descriptor.wireNamed_describe_iff.mp (h _ hd)
  · intro h d hd
    obtain ⟨_, hchain, earlier, last, rfl, rfl⟩ := Chain.exists_leads hleads hd
    obtain ⟨hdeclared, hnodup⟩ := (hmem _).mp hchain
    exact Descriptor.wireNamed_describe_iff.mpr (h earlier last hdeclared hnodup)

/-! Requests -/

/-- A field that is the path of a property, or its sub-field for exact matches. -/
def NamesField (field : String) : Prop := field ≠ "" ∧ field ≠ Naming.keywordField ""

/-- What holds of all fields that a query asks about and of all paths that it goes into. -/
inductive Query.OnFields (p : String → Prop) : Query → Prop
  | term {field value} (hfield : p field) : OnFields p (.term field value)
  | terms {field values} (hfield : p field) : OnFields p (.terms field values)
  | range {field gt lt} (hfield : p field) : OnFields p (.range field gt lt)
  | textMatch {field pattern} (hfield : p field) : OnFields p (.textMatch field pattern)
  | bool {must should} (hmust : ∀ query ∈ must, OnFields p query)
      (hshould : ∀ query ∈ should, OnFields p query) : OnFields p (.bool must should)
  | nested {path query innerHitsSize} (hpath : p path) (hquery : OnFields p query) :
      OnFields p (.nested path query innerHitsSize)

def AggregationNode.OnNames : AggregationNode → Prop
  | .terms _ field orderKey => NamesField field ∧ orderKey ≠ ""
  | .nestedTerms _ path innerName field orderKey scope =>
    NamesField path ∧ NamesField innerName ∧ NamesField field ∧ orderKey ≠ "" ∧
      ∀ query, scope = some query → query.OnFields NamesField
  | .min _ field | .max _ field | .avg _ field => NamesField field

/-- No request asks for a field without a name. -/
structure RequestBuilder.RendersNames (requests : RequestBuilder) : Prop where
  query : ∀ filter, (requests.compile filter).toQuery.OnFields NamesField
  sort : ∀ paging sort, requests.sort paging = some sort →
    ∃ field members, sort = .arr [.obj [(field, .obj members)]] ∧ NamesField field ∧
      ∀ path, ("nested", .obj [("path", .str path)]) ∈ members → NamesField path
  aggregations : ∀ filter, ∀ node ∈ requests.schema.aggregations (requests.compile filter),
    node.OnNames

theorem namesField_camelPath {path : String} (h : Naming.camelPath path ≠ "") :
    NamesField (Naming.camelPath path) :=
  ⟨h, (Naming.isTidy_camelPath path).not_leading "keyword"⟩

namespace Descriptor

variable {d : Descriptor}

theorem namesField_wireName (h : d.wireName ≠ "") : NamesField d.wireName := namesField_camelPath h

theorem namesField_exactField (h : d.wireName ≠ "") : NamesField d.exactField := by
  rw [exactField]
  split
  · refine ⟨by simp [Naming.keywordField], fun hkeyword => ?_⟩
    exact h ((String.append_left_inj _).mp hkeyword)
  · exact namesField_wireName h

theorem namesField_wireNestedPath {path : String} (h : d.wireNestedPath = some path) :
    NamesField path := by
  have hne := wireNestedPath_ne_empty h
  obtain ⟨hpath, -⟩ := Option.filter_eq_some_iff.mp h
  obtain ⟨place, -, rfl⟩ := Option.map_eq_some_iff.mp hpath
  exact namesField_camelPath hne

end Descriptor

theorem FilterValue.onFields_leaf {p : String → Prop} {d : Descriptor} (hname : p d.wireName)
    (hexact : p d.exactField) (value : FilterValue) : (value.leaf d).OnFields p := by
  cases value with
  | range bounds => exact .range hexact
  | text s => exact .textMatch hname
  | strings values => exact .terms hexact
  | list values => exact .terms hexact
  | scalar value => exact .term hexact

namespace Query

variable {p : String → Prop}

theorem onFields_conjunction {queries : List Query} (h : ∀ query ∈ queries, query.OnFields p) :
    (conjunction queries).OnFields p := by
  match queries with
  | [query] => exact h query List.mem_cons_self
  | [] => exact .bool h (fun _ hnil => absurd hnil List.not_mem_nil)
  | _ :: _ :: _ => exact .bool h (fun _ hnil => absurd hnil List.not_mem_nil)

/-- Grouped leaves are on the same fields, and on their paths. -/
theorem onFields_grouped {leaves : Leaves} {innerHitsSize : Nat}
    (hpaths : ∀ leaf ∈ leaves, ∀ path, leaf.1 = some path → p path)
    (hqueries : ∀ leaf ∈ leaves, leaf.2.OnFields p) :
    (CompiledFilter.grouped innerHitsSize leaves).toQuery.OnFields p := by
  refine .bool (List.forall_mem_map.mpr hqueries) (List.forall_mem_map.mpr fun path hpath => ?_)
  obtain ⟨query, hleaf⟩ := Leaves.mem_paths_iff.mp hpath
  exact .nested (hpaths _ hleaf path rfl) (onFields_conjunction fun query hquery =>
    hqueries _ (Leaves.mem_of_mem_under hquery))

end Query

theorem CompiledFilter.mem_nested_of_scope? {compiled : CompiledFilter} {path : String}
    {query : Query} (h : compiled.scope? path = some query) :
    ∃ innerHitsSize, .nested path query innerHitsSize ∈ compiled.nested := by
  obtain ⟨nested, hnested, hquery⟩ := List.exists_of_findSome?_eq_some h
  cases nested with
  | nested other inner innerHitsSize =>
    simp only [Option.ite_none_right_eq_some, Option.some.injEq] at hquery
    obtain ⟨rfl, rfl⟩ := hquery
    exact ⟨innerHitsSize, hnested⟩
  | _ => exact nomatch hquery

namespace DocumentSchema

variable {schema : DocumentSchema}

theorem mem_of_resolve {name : String} {d : Descriptor} (h : schema.resolve name = some d) :
    d ∈ schema.descriptors := by
  rcases Option.or_eq_some_iff.mp h with hpath | ⟨-, hname⟩
  · exact List.mem_of_find?_eq_some hpath
  · exact List.mem_of_find?_eq_some hname

theorem onFields_compile (h : ∀ d ∈ schema.descriptors, d.wireName ≠ "") (innerHitsSize : Nat)
    (filter : List FilterField) :
    (schema.compile innerHitsSize filter).toQuery.OnFields NamesField := by
  rw [compile_eq_grouped]
  have hasked : ∀ leaf ∈ Leaves.ofFilter schema filter, ∃ d ∈ schema.descriptors,
      ∃ value : FilterValue, leaf = (d.wireNestedPath, value.leaf d) := by
    intro leaf hleaf
    obtain ⟨field, -, hasks⟩ := List.mem_filterMap.mp hleaf
    obtain ⟨value, d, -, -, hresolve, rfl⟩ := (field.asks?_eq_some_iff schema leaf).mp hasks
    exact ⟨d, mem_of_resolve hresolve, value, rfl⟩
  refine Query.onFields_grouped ?_ ?_
  · intro leaf hleaf path hpath
    obtain ⟨d, -, value, rfl⟩ := hasked leaf hleaf
    exact Descriptor.namesField_wireNestedPath hpath
  · intro leaf hleaf
    obtain ⟨d, hd, value, rfl⟩ := hasked leaf hleaf
    exact value.onFields_leaf (Descriptor.namesField_wireName (h d hd))
      (Descriptor.namesField_exactField (h d hd))

/-- A text that is looked for in a property is looked for in a field of its path. -/
theorem wireName_ne_empty_of_onFields {innerHitsSize : Nat} (h : ∀ filter : List FilterField,
    (schema.compile innerHitsSize filter).toQuery.OnFields NamesField) :
    ∀ d ∈ schema.descriptors, d.wireName ≠ "" := by
  intro d hd
  have hsome : (schema.descriptors.find? (·.fullPath = d.fullPath)).isSome :=
    List.find?_isSome.mpr ⟨d, hd, decide_eq_true rfl⟩
  obtain ⟨found, hfound⟩ := Option.isSome_iff_exists.mp hsome
  have hpath : found.fullPath = d.fullPath := by simpa using List.find?_some hfound
  have hresolve : schema.resolve d.fullPath = some found := by rw [resolve, hfound, Option.some_or]
  let field : FilterField := ⟨d.fullPath, none, false, some (.text "")⟩
  have hasks : field.asks? schema =
      some (found.wireNestedPath, .textMatch found.wireName ("*" ++ "" ++ "*")) :=
    (field.asks?_eq_some_iff schema _).mpr ⟨_, found, rfl, rfl, hresolve, rfl⟩
  have hleaves : Leaves.ofFilter schema [field] =
      [(found.wireNestedPath, .textMatch found.wireName ("*" ++ "" ++ "*"))] :=
    List.filterMap_cons_some (f := fun field : FilterField => field.asks? schema) hasks
  have hquery := h [field]
  rw [compile_eq_grouped, hleaves] at hquery
  cases hquery with
  | bool hmust hshould =>
    cases hmust _ List.mem_cons_self with
    | textMatch hfield =>
      rw [Descriptor.wireName, ← hpath]
      exact hfield.1

end DocumentSchema

theorem Descriptor.WireNamed.onNames {d : Descriptor} (h : d.WireNamed)
    (htarget : d.isAggregateTarget = true) {compiled : CompiledFilter}
    (hcompiled : compiled.toQuery.OnFields NamesField) {node : AggregationNode}
    (hnode : node ∈ d.aggregations compiled) : node.OnNames := by
  obtain ⟨key, hkey, hne⟩ := h.order_ne_empty htarget
  have hexact := Descriptor.namesField_exactField h.wireName_ne_empty
  rw [Descriptor.aggregations, hkey] at hnode
  cases hpath : d.wireNestedPath with
  | some path =>
    simp only [hpath, List.mem_singleton] at hnode
    subst hnode
    refine ⟨namesField_wireNestedPath hpath, namesField_wireName h.wireName_ne_empty, hexact,
      hne, fun query hquery => ?_⟩
    obtain ⟨_, hnested⟩ := CompiledFilter.mem_nested_of_scope? hquery
    cases hcompiled with
    | bool hmust hshould =>
      cases hshould _ hnested with
      | nested hplace hinner => exact hinner
  | none =>
    simp only [hpath] at hnode
    split at hnode
    · rcases List.mem_cons.mp hnode with rfl | hnode
      · exact hexact
      · obtain rfl := List.mem_singleton.mp hnode
        exact hexact
    · split at hnode
      · obtain rfl := List.mem_singleton.mp hnode
        exact hexact
      · obtain rfl := List.mem_singleton.mp hnode
        exact ⟨hexact, hne⟩

/-- Where each property is named, every request names what it asks for. -/
theorem RequestBuilder.rendersNames {requests : RequestBuilder}
    (h : ∀ d ∈ requests.schema.descriptors, d.WireNamed) : requests.RendersNames where
  query := DocumentSchema.onFields_compile (fun d hd => (h d hd).wireName_ne_empty)
    requests.innerHitsSize
  sort paging sort hsort := by
    obtain ⟨path, -, hsort⟩ := Option.bind_eq_some_iff.mp hsort
    obtain ⟨d, hd, hsort⟩ := Option.bind_eq_some_iff.mp hsort
    have hmem : d ∈ requests.schema.descriptors := List.mem_of_find?_eq_some hd
    refine ⟨d.exactField, _, (Option.some.inj hsort).symm,
      Descriptor.namesField_exactField (h d hmem).wireName_ne_empty, fun place hplace => ?_⟩
    cases hnested : d.wireNestedPath with
    | none => simp [hnested] at hplace
    | some nested =>
      simp [hnested] at hplace
      exact hplace ▸ Descriptor.namesField_wireNestedPath hnested
  aggregations filter node hnode := by
    obtain ⟨d, hd, hnode⟩ := List.mem_flatMap.mp hnode
    obtain ⟨hmem, htarget⟩ := List.mem_filter.mp hd
    have hcompiled := DocumentSchema.onFields_compile
      (fun d hd => (h d hd).wireName_ne_empty) requests.innerHitsSize filter
    exact (h d hmem).onNames htarget hcompiled hnode

/-- A table that is not refused gives each property a name in the documents, below the path
of its object, and each order a key, exactly if something is left of all names and keys
that the walk comes to. Then no request asks for a field without a name. Queries by
themselves never do exactly if each property has a path. -/
theorem build_wireNamed (table : TypeTable) (schema : DocumentSchema)
    (hbuild : DocumentSchema.build table = .ok schema) :
    ((∀ d ∈ schema.descriptors, d.WireNamed) ↔ table.IsNamed) ∧
    (table.IsNamed → ∀ innerHitsSize, (⟨schema, innerHitsSize⟩ : RequestBuilder).RendersNames) ∧
    ∀ innerHitsSize, (∀ filter : List FilterField,
        (schema.compile innerHitsSize filter).toQuery.OnFields NamesField) ↔
      ∀ d ∈ schema.descriptors, d.wireName ≠ "" := by
  have hnamed := TypeTable.isNamed_iff hbuild
  refine ⟨hnamed, fun htable innerHitsSize => ?_, fun innerHitsSize => ⟨?_, ?_⟩⟩
  · exact RequestBuilder.rendersNames (hnamed.mpr htable)
  · exact DocumentSchema.wireName_ne_empty_of_onFields
  · exact fun h => DocumentSchema.onFields_compile h innerHitsSize

/-- An order with a property that is nothing but a dot, and so is the key of another one. -/
def dotted : TypeTable :=
  [⟨"Order", [⟨".", .string, none⟩, ⟨"Status", .string, some ⟨none, "."⟩⟩]⟩]

theorem build_dotted : DocumentSchema.build dotted =
    .ok ⟨"Order", [describe "Order" none ⟨".", .string, none⟩,
      describe "Order" none ⟨"Status", .string, some ⟨none, "."⟩⟩]⟩ :=
  build_plain (by decide +kernel) {
    named := by decide +kernel
    nodup := by decide
    ordered := by decide +kernel
    scalar := by decide }

/-- The table is not refused, though its first property has no name in the documents and the
terms of its second one are to be ordered by an empty key; a filter on the first property
asks for a field without a name. -/
theorem build_wireNamed_dotted :
    ∃ schema, DocumentSchema.build dotted = .ok schema ∧
      schema.descriptors.map (·.wireName) = ["", "status"] ∧
      schema.descriptors.map (·.order) = [none, some ""] ∧
      ¬ dotted.IsNamed ∧ ∀ innerHitsSize, ∃ filter : List FilterField,
        ¬ (schema.compile innerHitsSize filter).toQuery.OnFields NamesField := by
  obtain ⟨hnamed, -, hqueries⟩ := build_wireNamed dotted _ build_dotted
  have hfirst : (describe "Order" none ⟨".", .string, none⟩).wireName = "" := by decide +kernel
  refine ⟨_, build_dotted, by decide +kernel, by decide +kernel, fun htable => ?_,
    fun innerHitsSize => ?_⟩
  · exact (hnamed.mpr htable _ List.mem_cons_self).wireName_ne_empty hfirst
  · rw [← not_forall, hqueries]
    exact fun h => h _ List.mem_cons_self hfirst

end SearchStore
