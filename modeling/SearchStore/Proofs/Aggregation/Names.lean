import SearchStore.Proofs.FirstMention
import SearchStore.Proofs.Schema.Walk
import SearchStore.Request

/-!
The names under which aggregations are asked for. They are made of the bare names
of properties, whatever the paths to them, so the aggregations of two properties
may have one name. The request then keeps only the last one, and it is complete
exactly when no name comes up twice. Filters have no part in the names.
-/

namespace SearchStore

namespace Descriptor

def aggregationNames (d : Descriptor) : List String :=
  if d.wireNestedPath.isSome then [d.name]
  else if d.type.isNumeric then [d.name ++ "Min", d.name ++ "Max"]
  else if d.type.isBoolean then [d.name ++ "Avg"]
  else [d.name]

theorem map_name_aggregations (d : Descriptor) (compiled : CompiledFilter) :
    (d.aggregations compiled).map AggregationNode.name = d.aggregationNames := by
  unfold aggregations aggregationNames
  cases d.wireNestedPath with
  | some path => rfl
  | none =>
    by_cases hnumeric : d.type.isNumeric = true
    · simp [hnumeric, AggregationNode.name]
    · by_cases hboolean : d.type.isBoolean = true <;>
        simp [hnumeric, hboolean, AggregationNode.name]

end Descriptor

namespace DocumentSchema

def aggregationNames (schema : DocumentSchema) : List String :=
  schema.aggregateTargets.flatMap Descriptor.aggregationNames

theorem map_name_aggregations (schema : DocumentSchema) (compiled : CompiledFilter) :
    (schema.aggregations compiled).map AggregationNode.name = schema.aggregationNames := by
  rw [aggregations, List.map_flatMap, aggregationNames]
  congr 1
  funext d
  exact d.map_name_aggregations compiled

end DocumentSchema

namespace AggregationNode

/-- Each name once, in the order of the nodes. -/
theorem keys_render (nodes : List AggregationNode) :
    (Json.distinctMembers (nodes.map fun node => (node.name, node.toJson))).map Prod.fst =
      (nodes.map name).eraseDups := by
  rw [Json.keys_distinctMembers, List.map_map]
  rfl

/-- Under a name the last node that has it. -/
theorem lookup_render (nodes : List AggregationNode) (key : String) :
    (Json.distinctMembers (nodes.map fun node => (node.name, node.toJson))).lookup key =
      ((nodes.filter fun node => node.name = key).getLast?).map toJson := by
  rw [Json.lookup_distinctMembers, List.filter_map, List.getLast?_map, Option.map_map]
  rfl

end AggregationNode

/-- The aggregations of a request: each name once, with the last aggregation of
that name. All are there exactly when no name comes up twice among those of the
properties to be aggregated. -/
theorem aggregationBody_complete_iff (requests : RequestBuilder) (filter : List FilterField) :
    ∃ members, (requests.aggregationBody filter).get? "aggs" = some (.obj members) ∧
      members.map Prod.fst = requests.schema.aggregationNames.eraseDups ∧
      (∀ key, members.lookup key =
        (((requests.schema.aggregations (requests.compile filter)).filter
          fun node => node.name = key).getLast?).map AggregationNode.toJson) ∧
      (members.length = (requests.schema.aggregations (requests.compile filter)).length ↔
        requests.schema.aggregationNames.Nodup) ∧
      (requests.schema.aggregationNames.Nodup →
        members = (requests.schema.aggregations (requests.compile filter)).map
          fun node => (node.name, node.toJson)) := by
  have hnames := requests.schema.map_name_aggregations (requests.compile filter)
  have hkeys := AggregationNode.keys_render
    (requests.schema.aggregations (requests.compile filter))
  rw [hnames] at hkeys
  refine ⟨_, rfl, hkeys, AggregationNode.lookup_render _, ?_, ?_⟩
  · rw [← List.length_eraseDups_eq_iff, ← hkeys, ← hnames, List.length_map, List.length_map]
  · intro hnodup
    apply Json.distinctMembers_of_nodup
    rw [List.map_map]
    exact hnames ▸ hnodup

def address : TypeSchema := ⟨"Address", [⟨"City", .string, some {}⟩]⟩

def twoAddresses : TypeTable :=
  [⟨"Order", [⟨"Billing", .object 1, none⟩, ⟨"Shipping", .object 1, none⟩]⟩, address]

def addressDescriptors (name : String) : List Descriptor :=
  [Schema.describe "Order" none ⟨name, .object 1, none⟩,
    Schema.describe "Address" (some name) ⟨"City", .string, some {}⟩]

theorem walkType_address (name : String) :
    Schema.walkType twoAddresses ["Order"] (some name)
      ⟨address, List.mem_cons_of_mem _ List.mem_cons_self, by decide⟩ =
      .ok [Schema.describe "Address" (some name) ⟨"City", .string, some {}⟩] := by
  have hcity : Text.isBlank "City" = false := by decide +kernel
  have hkey : Text.isBlank "_key" = false := by decide +kernel
  have hcheck : Schema.checkProperty "Address" (some name) [] ⟨"City", .string, some {}⟩ =
      .ok () := by
    simp [Schema.checkProperty, hcity, hkey]
  rw [Schema.walkType_of_named _ (by decide +kernel)]
  change Schema.walkProperties twoAddresses ["Address", "Order"] (some name) "Address" []
    [⟨"City", .string, some {}⟩] = _
  rw [Schema.walkProperties_cons_of_none hcheck rfl, Schema.walkProperties_nil]
  rfl

theorem build_twoAddresses :
    DocumentSchema.build twoAddresses =
      .ok ⟨"Order", addressDescriptors "Billing" ++ addressDescriptors "Shipping"⟩ := by
  have hbilling : Schema.checkProperty "Order" none [] ⟨"Billing", .object 1, none⟩ = .ok () := by
    have hnamed : Text.isBlank "Billing" = false := by decide +kernel
    simp [Schema.checkProperty, hnamed]
  have hshipping : Schema.checkProperty "Order" none ["Billing"]
      ⟨"Shipping", .object 1, none⟩ = .ok () := by
    have hnamed : Text.isBlank "Shipping" = false := by decide +kernel
    simp [Schema.checkProperty, hnamed]
  have hwalk : Schema.descriptors twoAddresses =
      .ok (addressDescriptors "Billing" ++ addressDescriptors "Shipping") := by
    have hroot : Schema.descriptors twoAddresses =
        Schema.walkProperties twoAddresses ["Order"] none "Order" []
          [⟨"Billing", .object 1, none⟩, ⟨"Shipping", .object 1, none⟩] :=
      Schema.walkType_of_named _ (by decide +kernel)
    rw [hroot, Schema.walkProperties_cons_of_some hbilling rfl rfl (by decide),
      Schema.walkProperties_cons_of_some hshipping rfl rfl (by decide),
      Schema.walkProperties_nil]
    simp only [Schema.describe, Schema.joinPath, walkType_address]
    rfl
  rw [DocumentSchema.build, hwalk]
  rfl

/-- Of the cities of two addresses only those of the second are asked for: there
are two aggregations, and one of them is in the request. -/
theorem aggregations_lost_of_same_type :
    ∃ schema, DocumentSchema.build twoAddresses = .ok schema ∧
      (schema.aggregations ((RequestBuilder.mk schema 1000).compile [])).length = 2 ∧
      (((RequestBuilder.mk schema 1000).aggregationBody []).get? "aggs").bind
        (fun aggs => aggs.asObject?.map List.length) = some 1 := by
  exact ⟨_, build_twoAddresses, by decide +kernel, by decide +kernel⟩

end SearchStore
