import SearchStore.Proofs.Aggregation.Names
import SearchStore.Proofs.Query.Grouping

/-!
The scopes of nested aggregations. A filter is compiled once, and the query and the
aggregations of a request look up in it what is asked of the objects of a path. So an
aggregation of nested objects counts those that the query shows: its scope is what all
fields that ask something of the path ask, in their order, and no other field has a part
in it.
-/

namespace SearchStore

def FilterField.asksUnder? (field : FilterField) (schema : DocumentSchema) (path : String) :
    Option Query :=
  ((field.asks? schema).filter fun leaf => leaf.1 = some path).map Prod.snd

theorem FilterField.asksUnder?_eq_some_iff (field : FilterField) (schema : DocumentSchema)
    (path : String) (query : Query) :
    field.asksUnder? schema path = some query ↔ ∃ value d, field.ignored = false ∧
      field.value = some value ∧ schema.resolve field.lookupName = some d ∧
      d.wireNestedPath = some path ∧ value.leaf d = query := by
  rw [asksUnder?, Option.map_eq_some_iff]
  constructor
  · rintro ⟨leaf, hleaf, rfl⟩
    obtain ⟨hasks, hpath⟩ := Option.filter_eq_some_iff.mp hleaf
    obtain ⟨value, d, hignored, hvalue, hresolved, rfl⟩ :=
      (field.asks?_eq_some_iff schema leaf).mp hasks
    exact ⟨value, d, hignored, hvalue, hresolved, of_decide_eq_true hpath, rfl⟩
  · rintro ⟨value, d, hignored, hvalue, hresolved, hpath, rfl⟩
    refine ⟨(d.wireNestedPath, value.leaf d), Option.filter_eq_some_iff.mpr ⟨?_, ?_⟩, rfl⟩
    · exact (field.asks?_eq_some_iff schema _).mpr
        ⟨value, d, hignored, hvalue, hresolved, rfl⟩
    · exact decide_eq_true hpath

/-- Something is asked of a path exactly when a field does. -/
theorem asksUnder?_ne_nil_iff (schema : DocumentSchema) (filter : List FilterField)
    (path : String) :
    filter.filterMap (·.asksUnder? schema path) ≠ [] ↔ ∃ field ∈ filter, ∃ value d,
      field.ignored = false ∧ field.value = some value ∧
        schema.resolve field.lookupName = some d ∧ d.wireNestedPath = some path := by
  constructor
  · intro hsome
    obtain ⟨query, hquery⟩ := List.exists_mem_of_ne_nil _ hsome
    obtain ⟨field, hfield, hasks⟩ := List.mem_filterMap.mp hquery
    obtain ⟨value, d, hignored, hvalue, hresolved, hpath, -⟩ :=
      (field.asksUnder?_eq_some_iff schema path query).mp hasks
    exact ⟨field, hfield, value, d, hignored, hvalue, hresolved, hpath⟩
  · rintro ⟨field, hfield, value, d, hignored, hvalue, hresolved, hpath⟩
    have hasks := (field.asksUnder?_eq_some_iff schema path (value.leaf d)).mpr
      ⟨value, d, hignored, hvalue, hresolved, hpath, rfl⟩
    exact List.ne_nil_of_mem (List.mem_filterMap.mpr ⟨field, hfield, hasks⟩)

/-- What is asked of a path is asked field by field. -/
theorem Leaves.under_ofFilter (schema : DocumentSchema) (filter : List FilterField)
    (path : String) :
    (Leaves.ofFilter schema filter).under path =
      filter.filterMap (·.asksUnder? schema path) := by
  induction filter with
  | nil => rfl
  | cons field rest ih =>
    rw [Leaves.ofFilter, Leaves.under] at ih ⊢
    rw [List.filterMap_cons, List.filterMap_cons, ← ih, FilterField.asksUnder?]
    cases field.asks? schema with
    | none => rfl
    | some leaf => by_cases hpath : leaf.1 = some path <;> simp [hpath, Option.filter]

namespace Json

/-- What a clause asks of the objects of a path, if it is a nested one of the path. -/
def nestedUnder? (path : String) (clause : Json) : Option Json :=
  if (clause.at? ["nested", "path"]).bind asString? = some path then
    clause.at? ["nested", "query"]
  else none

def preferredUnder (path : String) (body : Json) : List Json :=
  (((body.at? ["query", "bool", "should"]).bind asArray?).getD []).filterMap (nestedUnder? path)

def groupFilter? (aggregation : Json) : Option Json :=
  aggregation.at? ["aggs", AggregationNode.groupByKey, "filter"]

end Json

namespace Query

theorem listToJson_eq_map (queries : List Query) : listToJson queries = queries.map toJson := by
  induction queries with
  | nil => rfl
  | cons query rest ih => rw [listToJson, ih, List.map_cons]

/-- The preferred clauses of a boolean query, read from its text. -/
theorem should_toJson (must should : List Query) :
    (((bool must should).toJson.at? ["bool", "should"]).bind Json.asArray?).getD [] =
      should.map toJson := by
  have hmust : List.lookup "should" (clauseMember "must" (listToJson must)) = none := by
    unfold clauseMember
    split <;> rfl
  have hshould : List.lookup "should" (clauseMember "should" (listToJson should)) =
      if should = [] then none else some (.arr (listToJson should)) := by
    cases should with
    | nil => rfl
    | cons query rest => simp [clauseMember, listToJson]
  have hread : (bool must should).toJson.at? ["bool", "should"] =
      if should = [] then none else some (.arr (listToJson should)) := by
    rw [toJson]
    simp [Json.at?, Json.get?, List.lookup_append, hmust, hshould]
  rw [hread]
  cases should with
  | nil => rfl
  | cons query rest => simp [Json.asArray?, listToJson_eq_map]

end Query

namespace CompiledFilter

variable {innerHitsSize : Nat}

theorem nestedUnder?_toJson_nested (path other : String) (query : Query) :
    (Query.nested other query innerHitsSize).toJson.nestedUnder? path =
      if other = path then some query.toJson else none := by
  simp [Query.toJson, Json.nestedUnder?, Json.at?, Json.get?, Json.asString?, List.lookup_cons]

/-- There is one clause for each path. -/
theorem filterMap_nestedQueries {paths : List String} (hnodup : paths.Nodup)
    (asked : String → Query) (path : String) :
    ((nestedQueries innerHitsSize paths asked).map Query.toJson).filterMap
        (Json.nestedUnder? path) =
      if path ∈ paths then [(asked path).toJson] else [] := by
  induction paths with
  | nil => rfl
  | cons first rest ih =>
    obtain ⟨hfirst, hrest⟩ := List.nodup_cons.mp hnodup
    rw [nestedQueries, List.map_cons, ← nestedQueries, List.map_cons, List.filterMap_cons,
      nestedUnder?_toJson_nested, ih hrest]
    by_cases hpath : first = path
    · subst hpath
      simp [hfirst]
    · simp [hpath, Ne.symm hpath]

theorem scope?_grouped (leaves : Leaves) (path : String) :
    (grouped innerHitsSize leaves).scope? path =
      if path ∈ leaves.paths then some (.conjunction (leaves.under path)) else none := by
  rw [scope?, grouped, nestedQueries]
  induction leaves.paths with
  | nil => rfl
  | cons first rest ih =>
    rw [List.map_cons, List.findSome?_cons, ih]
    by_cases hpath : first = path
    · subst hpath
      simp
    · simp [hpath, Ne.symm hpath]

/-- The query of a path is the one that is looked up for it. -/
theorem filterMap_nested_grouped (leaves : Leaves) (path : String) :
    ((grouped innerHitsSize leaves).nested.map Query.toJson).filterMap (Json.nestedUnder? path) =
      (((grouped innerHitsSize leaves).scope? path).map Query.toJson).toList := by
  rw [scope?_grouped, grouped, filterMap_nestedQueries leaves.nodup_paths]
  split <;> rfl

end CompiledFilter

namespace AggregationNode

theorem groupFilter?_toJson (name path innerName field orderKey : String)
    (scope : Option Query) :
    (nestedTerms name path innerName field orderKey scope).toJson.groupFilter? =
      scope.map Query.toJson := by
  cases scope with
  | some scope => rfl
  | none =>
    by_cases hname : innerName = groupByKey
    · subst hname
      rfl
    · simp [toJson, Json.groupFilter?, Json.at?, Json.get?, List.lookup_cons,
        beq_false_of_ne (Ne.symm hname)]

/-- Only aggregations of nested objects have a path. -/
theorem eq_nestedTerms_of_path {node : AggregationNode} {path : String}
    (h : node.toJson.at? ["nested", "path"] = some (.str path)) :
    ∃ name innerName field orderKey scope,
      node = nestedTerms name path innerName field orderKey scope := by
  cases node with
  | nestedTerms name other innerName field orderKey scope =>
    obtain rfl : other = path := by
      simpa [toJson, Json.at?, Json.get?, List.lookup_cons] using h
    exact ⟨name, innerName, field, orderKey, scope, rfl⟩
  | terms | min | max | avg => cases h

end AggregationNode

theorem Descriptor.aggregations_of_path {d : Descriptor} {path : String}
    (h : d.wireNestedPath = some path) (compiled : CompiledFilter) :
    d.aggregations compiled = [.nestedTerms d.name path d.wireName d.exactField
      (d.order.getD "_key") (compiled.scope? path)] := by
  simp [aggregations, h]

/-- The scope of an aggregation is looked up by its path. -/
theorem DocumentSchema.scope_of_mem_aggregations {schema : DocumentSchema}
    {compiled : CompiledFilter} {name path innerName field orderKey : String}
    {scope : Option Query}
    (h : .nestedTerms name path innerName field orderKey scope ∈ schema.aggregations compiled) :
    scope = compiled.scope? path := by
  obtain ⟨d, -, hnode⟩ := List.mem_flatMap.mp h
  unfold Descriptor.aggregations at hnode
  split at hnode
  · simp_all
  · split at hnode
    · simp at hnode
    · split at hnode <;> simp at hnode

namespace RequestBuilder

variable (requests : RequestBuilder) (filter : List FilterField)

theorem scope?_compile (path : String) :
    (requests.compile filter).scope? path =
      match filter.filterMap (·.asksUnder? requests.schema path) with
      | [] => none
      | queries => some (.conjunction queries) := by
  rw [compile, DocumentSchema.compile_eq_grouped, CompiledFilter.scope?_grouped,
    ← Leaves.under_ofFilter]
  by_cases hpath : path ∈ (Leaves.ofFilter requests.schema filter).paths
  · have hsome := Leaves.under_ne_nil_iff.mpr hpath
    rw [if_pos hpath]
    split
    · contradiction
    · rfl
  · have hnone : (Leaves.ofFilter requests.schema filter).under path = [] := by
      apply Classical.byContradiction
      exact fun hsome => hpath (Leaves.under_ne_nil_iff.mp hsome)
    rw [if_neg hpath, hnone]

theorem preferredUnder_aggregationBody (path : String) :
    (requests.aggregationBody filter).preferredUnder path =
      (((requests.compile filter).scope? path).map Query.toJson).toList := by
  have hquery : (requests.aggregationBody filter).at? ["query", "bool", "should"] =
      (requests.compile filter).toQuery.toJson.at? ["bool", "should"] := rfl
  rw [Json.preferredUnder, hquery, CompiledFilter.toQuery, Query.should_toJson, compile,
    DocumentSchema.compile_eq_grouped, CompiledFilter.filterMap_nested_grouped]

/-- The aggregation of a property of nested objects, by what a filter asks of these. -/
structure Scoped (d : Descriptor) (path : String) (scope : Option Query) : Prop where
  aggregations_eq : d.aggregations (requests.compile filter) =
    [.nestedTerms d.name path d.wireName d.exactField (d.order.getD "_key") scope]
  mem : ∀ node ∈ d.aggregations (requests.compile filter),
    node ∈ requests.schema.aggregations (requests.compile filter)
  isSome_iff : scope.isSome = true ↔ ∃ field ∈ filter, ∃ value other, field.ignored = false ∧
    field.value = some value ∧ requests.schema.resolve field.lookupName = some other ∧
    other.wireNestedPath = some path
  eq_conjunction : ∀ query, scope = some query →
    query = .conjunction (filter.filterMap (·.asksUnder? requests.schema path))
  /-- A field that asks nothing of the path may be put in or left out. -/
  unmoved : ∀ earlier field later, filter = earlier ++ field :: later →
    field.asksUnder? requests.schema path = none →
    d.aggregations (requests.compile (earlier ++ later)) =
      d.aggregations (requests.compile filter)
  rendered : ∀ node ∈ d.aggregations (requests.compile filter),
    (requests.aggregationBody filter).preferredUnder path = node.toJson.groupFilter?.toList

theorem scoped_of_mem {d : Descriptor} {path : String} (hd : d ∈ requests.schema.aggregateTargets)
    (hpath : d.wireNestedPath = some path) :
    requests.Scoped filter d path ((requests.compile filter).scope? path) where
  aggregations_eq := d.aggregations_of_path hpath _
  mem node hnode := List.mem_flatMap.mpr ⟨d, hd, hnode⟩
  isSome_iff := by
    rw [scope?_compile, ← asksUnder?_ne_nil_iff]
    split <;> simp_all
  eq_conjunction query hquery := by
    rw [scope?_compile] at hquery
    split at hquery
    · cases hquery
    · exact (Option.some.inj hquery).symm
  unmoved := by
    rintro earlier field later rfl hnone
    rw [d.aggregations_of_path hpath, d.aggregations_of_path hpath, scope?_compile,
      scope?_compile]
    simp [hnone]
  rendered node hnode := by
    rw [d.aggregations_of_path hpath, List.mem_singleton] at hnode
    rw [hnode, AggregationNode.groupFilter?_toJson, preferredUnder_aggregationBody]

end RequestBuilder

/-- The aggregations of nested objects are scoped by what the query asks of these. Under a
name the request has the last aggregation of that name, scope and all. -/
theorem aggregationBody_scoped (requests : RequestBuilder) (filter : List FilterField) :
    (∀ d ∈ requests.schema.aggregateTargets, ∀ path, d.wireNestedPath = some path →
      ∃ scope, requests.Scoped filter d path scope) ∧
    ∃ members, (requests.aggregationBody filter).get? "aggs" = some (.obj members) ∧
      (∀ key, members.lookup key =
        (((requests.schema.aggregations (requests.compile filter)).filter
          fun node => node.name = key).getLast?).map AggregationNode.toJson) ∧
      ∀ member ∈ members, ∀ path, member.2.at? ["nested", "path"] = some (.str path) →
        (requests.aggregationBody filter).preferredUnder path = member.2.groupFilter?.toList := by
  refine ⟨fun d hd path hpath => ⟨_, requests.scoped_of_mem filter hd hpath⟩, _, rfl,
    AggregationNode.lookup_render _, ?_⟩
  intro member hmember path hpath
  obtain ⟨node, hnode, rfl⟩ := List.mem_map.mp (Json.mem_of_mem_distinctMembers hmember)
  obtain ⟨name, innerName, field, orderKey, scope, rfl⟩ :=
    AggregationNode.eq_nestedTerms_of_path hpath
  rw [requests.preferredUnder_aggregationBody, AggregationNode.groupFilter?_toJson,
    DocumentSchema.scope_of_mem_aggregations hnode]

def sku : Descriptor := Schema.describe "Line" (some "Lines") ⟨"Sku", .string, some {}⟩

def orders : RequestBuilder :=
  ⟨⟨"Order", [sku, Schema.describe "Order" none ⟨"Status", .string, none⟩]⟩, 100⟩

/-- The lines with an article are counted, whatever is asked of the order itself. -/
theorem aggregationBody_scoped_sku :
    sku ∈ orders.schema.aggregateTargets ∧ sku.wireNestedPath = some "lines" ∧
      ∃ scope, orders.Scoped [{ name := "Status", value := some (.text "open") },
        { name := "Sku", nested := some "Lines.Sku", value := some (.text "A-1") }] sku "lines"
        scope ∧ scope.isSome = true := by
  have htarget : sku ∈ orders.schema.aggregateTargets := by decide +kernel
  have hpath : sku.wireNestedPath = some "lines" := by decide +kernel
  obtain ⟨scope, hscoped⟩ := (aggregationBody_scoped orders
    [{ name := "Status", value := some (.text "open") },
      { name := "Sku", nested := some "Lines.Sku", value := some (.text "A-1") }]).1
    sku htarget "lines" hpath
  refine ⟨htarget, hpath, scope, hscoped, hscoped.isSome_iff.mpr ?_⟩
  exact ⟨_, List.mem_cons_of_mem _ List.mem_cons_self, .text "A-1", sku, rfl, rfl,
    by decide +kernel, hpath⟩

end SearchStore
