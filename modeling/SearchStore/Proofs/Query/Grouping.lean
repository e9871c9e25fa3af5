import SearchStore.Proofs.FirstMention
import SearchStore.Query.Compilation

/-!
What a filter is compiled to, without its loop: the leaves of its fields in their
order, and for each path among them one nested query, with all that is asked of
this path. The loop extends nested queries in place; the invariant is that it has
grouped the leaves seen so far.
-/

namespace SearchStore

/-- What is asked by fields, in their order: a path, if the property is one of
nested objects, and a query. -/
abbrev Leaves := List (Option String × Query)

namespace Leaves

def queries (leaves : Leaves) : List Query := leaves.map Prod.snd

def paths (leaves : Leaves) : List String := (leaves.filterMap Prod.fst).eraseDups

def under (leaves : Leaves) (path : String) : List Query :=
  (leaves.filter fun leaf => leaf.1 = some path).map Prod.snd

end Leaves

/-- All of some queries; one query stands for itself. -/
def Query.conjunction : List Query → Query
  | [query] => query
  | queries => .bool queries []

def Query.IsLeaf (query : Query) : Prop := ∀ must should, query ≠ .bool must should

namespace Query

/-- A conjunction of leaves takes another query in at its end. -/
theorem and_conjunction {queries : List Query} (hne : queries ≠ [])
    (hleaves : ∀ query ∈ queries, query.IsLeaf) (query : Query) :
    (conjunction queries).and query = conjunction (queries ++ [query]) := by
  match queries, hne with
  | [first], _ =>
    have hfirst := hleaves first List.mem_cons_self
    cases first with
    | bool must should => exact absurd rfl (hfirst must should)
    | _ => rfl
  | first :: second :: rest, _ => rfl

end Query

theorem FilterValue.isLeaf_leaf (d : Descriptor) (value : FilterValue) :
    (value.leaf d).IsLeaf := by
  intro must should
  cases value <;> simp [leaf]

namespace Leaves

variable {leaves : Leaves} {path : String} {query : Query}

theorem nodup_paths (leaves : Leaves) : leaves.paths.Nodup := List.nodup_eraseDups _

theorem paths_concat_none :
    paths (leaves ++ [(none, query)]) = leaves.paths := by
  simp [paths]

theorem paths_concat_some :
    paths (leaves ++ [(some path, query)]) =
      if path ∈ leaves.paths then leaves.paths else leaves.paths ++ [path] := by
  rw [paths, List.filterMap_append, paths]
  simp only [List.filterMap_cons, List.filterMap_nil, List.eraseDups_concat, List.mem_eraseDups]

theorem under_concat_of_ne {other : Option String} (h : other ≠ some path) :
    under (leaves ++ [(other, query)]) path = leaves.under path := by
  simp [under, h]

theorem under_concat_self :
    under (leaves ++ [(some path, query)]) path = leaves.under path ++ [query] := by
  simp [under]

theorem mem_paths_iff : path ∈ leaves.paths ↔ ∃ query, (some path, query) ∈ leaves := by
  simp [paths]

theorem under_ne_nil_iff : leaves.under path ≠ [] ↔ path ∈ leaves.paths := by
  rw [mem_paths_iff, under, Ne, List.map_eq_nil_iff, List.filter_eq_nil_iff]
  constructor
  · intro hnot
    apply Classical.byContradiction
    intro hnone
    apply hnot
    rintro ⟨other, query⟩ hmem hpath
    obtain rfl : other = some path := by simpa using hpath
    exact hnone ⟨query, hmem⟩
  · rintro ⟨query, hmem⟩ hall
    exact hall _ hmem (by simp)

theorem mem_of_mem_under (h : query ∈ leaves.under path) : (some path, query) ∈ leaves := by
  obtain ⟨⟨other, query⟩, hmem, rfl⟩ := List.mem_map.mp h
  obtain ⟨hleaf, hpath⟩ := List.mem_filter.mp hmem
  obtain rfl : other = some path := by simpa using hpath
  exact hleaf

end Leaves

namespace CompiledFilter

def nestedQueries (innerHitsSize : Nat) (paths : List String) (asked : String → Query) :
    List Query :=
  paths.map fun path => .nested path (asked path) innerHitsSize

/-- The leaves, and one nested query for each of their paths. -/
def grouped (innerHitsSize : Nat) (leaves : Leaves) : CompiledFilter where
  must := leaves.queries
  nested := nestedQueries innerHitsSize leaves.paths fun path => .conjunction (leaves.under path)

section Nested

variable {innerHitsSize : Nat} {path : String} {query : Query} {paths : List String}
  {asked : String → Query}

/-- A path that is not there gets a nested query at the end. -/
theorem addNested_of_not_mem (h : path ∉ paths) :
    addNested innerHitsSize path query (nestedQueries innerHitsSize paths asked) =
      nestedQueries innerHitsSize paths asked ++ [.nested path query innerHitsSize] := by
  induction paths with
  | nil => rfl
  | cons first rest ih =>
    simp only [List.mem_cons, not_or] at h
    simp only [nestedQueries, List.map_cons, addNested] at ih ⊢
    rw [if_neg (Ne.symm h.1), ih h.2, List.cons_append]

/-- The nested query of a path that is there takes the query in. -/
theorem addNested_of_mem (hnodup : paths.Nodup) (h : path ∈ paths) :
    addNested innerHitsSize path query (nestedQueries innerHitsSize paths asked) =
      nestedQueries innerHitsSize paths fun other =>
        if other = path then (asked other).and query else asked other := by
  induction paths with
  | nil => simp at h
  | cons first rest ih =>
    rw [List.nodup_cons] at hnodup
    simp only [nestedQueries, List.map_cons, addNested] at ih ⊢
    by_cases hfirst : first = path
    · subst hfirst
      rw [if_pos rfl, if_pos rfl]
      congr 1
      apply List.map_congr_left
      intro other hother
      have hne : other ≠ first := by
        rintro rfl
        exact hnodup.1 hother
      rw [if_neg hne]
    · have hrest : path ∈ rest := (List.mem_cons.mp h).resolve_left (Ne.symm hfirst)
      rw [if_neg hfirst, if_neg hfirst, ih hnodup.2 hrest]

theorem nestedQueries_congr {other : String → Query} (h : ∀ p ∈ paths, asked p = other p) :
    nestedQueries innerHitsSize paths asked = nestedQueries innerHitsSize paths other := by
  apply List.map_congr_left
  intro p hp
  rw [h p hp]

end Nested

section Grouped

variable {innerHitsSize : Nat} {leaves : Leaves} {path : String} {query : Query}

theorem nested_grouped_concat_none :
    (grouped innerHitsSize (leaves ++ [(none, query)])).nested =
      (grouped innerHitsSize leaves).nested := by
  simp only [grouped]
  rw [Leaves.paths_concat_none]
  apply nestedQueries_congr
  intro p _
  rw [Leaves.under_concat_of_ne (by simp)]

/-- Another leaf of a path goes into its nested query. -/
theorem nested_grouped_concat_of_mem (hleaves : ∀ leaf ∈ leaves, leaf.2.IsLeaf)
    (h : path ∈ leaves.paths) :
    (grouped innerHitsSize (leaves ++ [(some path, query)])).nested =
      addNested innerHitsSize path query (grouped innerHitsSize leaves).nested := by
  simp only [grouped]
  rw [Leaves.paths_concat_some, if_pos h, addNested_of_mem leaves.nodup_paths h]
  apply nestedQueries_congr
  intro p _
  by_cases hp : p = path
  · subst hp
    rw [if_pos rfl, Leaves.under_concat_self]
    exact (Query.and_conjunction (Leaves.under_ne_nil_iff.mpr h)
      (fun q hq => hleaves _ (Leaves.mem_of_mem_under hq)) query).symm
  · rw [if_neg hp, Leaves.under_concat_of_ne (by simpa [eq_comm] using hp)]

/-- The first leaf of a path makes a nested query by itself. -/
theorem nested_grouped_concat_of_not_mem (h : path ∉ leaves.paths) :
    (grouped innerHitsSize (leaves ++ [(some path, query)])).nested =
      addNested innerHitsSize path query (grouped innerHitsSize leaves).nested := by
  have hnone : leaves.under path = [] := by
    apply Classical.byContradiction
    exact fun hsome => h (Leaves.under_ne_nil_iff.mp hsome)
  simp only [grouped]
  rw [Leaves.paths_concat_some, if_neg h, addNested_of_not_mem h, nestedQueries, nestedQueries,
    List.map_append, List.map_singleton, Leaves.under_concat_self, hnone]
  congr 1
  apply List.map_congr_left
  intro p hp
  have hne : some path ≠ some p := by
    rintro ⟨⟩
    exact h hp
  rw [Leaves.under_concat_of_ne hne]

/-- Adding one more leaf to grouped leaves groups them all. -/
theorem add_grouped (hleaves : ∀ leaf ∈ leaves, leaf.2.IsLeaf) (d : Descriptor) :
    (grouped innerHitsSize leaves).add innerHitsSize d query =
      grouped innerHitsSize (leaves ++ [(d.wireNestedPath, query)]) := by
  have hmust : Leaves.queries (leaves ++ [(d.wireNestedPath, query)]) =
      leaves.queries ++ [query] := by
    simp [Leaves.queries]
  rw [add, CompiledFilter.mk.injEq]
  refine ⟨hmust.symm, ?_⟩
  cases d.wireNestedPath with
  | none => exact nested_grouped_concat_none.symm
  | some path =>
    by_cases h : path ∈ leaves.paths
    · exact (nested_grouped_concat_of_mem hleaves h).symm
    · exact (nested_grouped_concat_of_not_mem h).symm

end Grouped

/-- Whether anything is asked of a path can be told from the leaves. -/
theorem isSome_scope?_grouped (innerHitsSize : Nat) (leaves : Leaves) (path : String) :
    ((grouped innerHitsSize leaves).scope? path).isSome = true ↔ path ∈ leaves.paths := by
  simp [scope?, grouped, nestedQueries]

end CompiledFilter

/-- What a field asks: nothing if it is ignored, has no value or names no
property. -/
def FilterField.asks? (field : FilterField) (schema : DocumentSchema) :
    Option (Option String × Query) :=
  if field.ignored then none
  else
    match field.value, schema.resolve field.lookupName with
    | some value, some d => some (d.wireNestedPath, value.leaf d)
    | _, _ => none

theorem FilterField.asks?_eq (field : FilterField) (schema : DocumentSchema) :
    field.asks? schema = (field.resolve? schema).map fun (d, leaf) => (d.wireNestedPath, leaf) := by
  unfold asks? resolve?
  cases field.ignored with
  | true => rfl
  | false =>
    cases field.value with
    | none => rfl
    | some value => cases schema.resolve field.lookupName <;> rfl

theorem FilterField.asks?_eq_none_iff (field : FilterField) (schema : DocumentSchema) :
    field.asks? schema = none ↔
      field.ignored = true ∨ field.value = none ∨ schema.resolve field.lookupName = none := by
  unfold asks?
  cases field.ignored <;> cases field.value <;> cases schema.resolve field.lookupName <;> simp

theorem FilterField.asks?_eq_some_iff (field : FilterField) (schema : DocumentSchema)
    (leaf : Option String × Query) :
    field.asks? schema = some leaf ↔ ∃ value d, field.ignored = false ∧
      field.value = some value ∧ schema.resolve field.lookupName = some d ∧
      (d.wireNestedPath, value.leaf d) = leaf := by
  unfold asks?
  cases field.ignored <;> cases field.value <;> cases schema.resolve field.lookupName <;> simp

def Leaves.ofFilter (schema : DocumentSchema) (filter : List FilterField) : Leaves :=
  filter.filterMap (·.asks? schema)

theorem Leaves.isLeaf_of_mem_ofFilter {schema : DocumentSchema} {filter : List FilterField}
    {leaf : Option String × Query} (h : leaf ∈ Leaves.ofFilter schema filter) :
    leaf.2.IsLeaf := by
  obtain ⟨field, -, hleaf⟩ := List.mem_filterMap.mp h
  obtain ⟨value, d, -, -, -, rfl⟩ := (field.asks?_eq_some_iff schema leaf).mp hleaf
  exact FilterValue.isLeaf_leaf d value

namespace DocumentSchema

/-- Compiling a filter groups what its fields ask. -/
theorem compile_eq_grouped (schema : DocumentSchema) (innerHitsSize : Nat)
    (filter : List FilterField) :
    schema.compile innerHitsSize filter = .grouped innerHitsSize (.ofFilter schema filter) := by
  -- From the right: the loop has grouped the fields before the last one.
  induction filter using List.reverseRecOn with
  | nil => rfl
  | append_singleton filter field ih =>
    have hleaves : ∀ leaf ∈ Leaves.ofFilter schema filter, leaf.2.IsLeaf :=
      fun _ => Leaves.isLeaf_of_mem_ofFilter
    rw [Leaves.ofFilter, List.filterMap_append, ← Leaves.ofFilter]
    unfold compile at ih ⊢
    rw [List.foldl_append, ih, List.filterMap_cons, List.filterMap_nil, FilterField.asks?_eq]
    cases hresolve : field.resolve? schema with
    | none => simp [hresolve]
    | some found => simpa [hresolve] using CompiledFilter.add_grouped hleaves found.1

end DocumentSchema

/-- What a filter is compiled to: its leaves in the order of its fields, one nested
query for each of their paths in the order in which the paths come up, and in it
all that is asked of the path. Fields that ask nothing may be put in or left out,
and a path has a nested query exactly when some field asks something of it. -/
theorem compile_groups_leaves (schema : DocumentSchema) (innerHitsSize : Nat)
    (filter : List FilterField) :
    (schema.compile innerHitsSize filter).must = (Leaves.ofFilter schema filter).queries ∧
    (schema.compile innerHitsSize filter).nested =
      (Leaves.ofFilter schema filter).paths.map (fun path =>
        .nested path (.conjunction ((Leaves.ofFilter schema filter).under path)) innerHitsSize) ∧
    (∀ earlier field later, filter = earlier ++ field :: later →
      field.ignored = true ∨ field.value = none ∨ schema.resolve field.lookupName = none →
      schema.compile innerHitsSize filter = schema.compile innerHitsSize (earlier ++ later)) ∧
    ∀ path, ((schema.compile innerHitsSize filter).scope? path).isSome = true ↔
      ∃ field ∈ filter, ∃ query, field.asks? schema = some (some path, query) := by
  rw [DocumentSchema.compile_eq_grouped]
  refine ⟨rfl, rfl, ?_, ?_⟩
  · rintro earlier field later rfl hskipped
    rw [DocumentSchema.compile_eq_grouped]
    congr 1
    rw [← FilterField.asks?_eq_none_iff] at hskipped
    simp [Leaves.ofFilter, hskipped]
  · intro path
    rw [CompiledFilter.isSome_scope?_grouped, Leaves.mem_paths_iff]
    simp only [Leaves.ofFilter, List.mem_filterMap]
    constructor
    · rintro ⟨query, field, hfield, hasks⟩
      exact ⟨field, hfield, query, hasks⟩
    · rintro ⟨field, hfield, query, hasks⟩
      exact ⟨query, field, hfield, hasks⟩

end SearchStore
