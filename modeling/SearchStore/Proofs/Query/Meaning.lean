import SearchStore.Proofs.Query.Grouping

/-!
What queries mean. A leaf and a nested query may ask anything of a document. A
boolean query asks for all of its required clauses; only where nothing is required
does it ask for one of the preferred ones. A compiled filter prefers its nested
queries, and it has none unless something is required, so they show and count
nested objects without any say in what is found.
-/

namespace SearchStore

variable {δ : Type}

namespace Query

section Meaning

variable (asks : Query → δ → Prop)

mutual

def Matches : Query → δ → Prop
  | .bool must should, document =>
    AllMatch must document ∧ (must = [] → should ≠ [] → AnyMatches should document)
  | query, document => asks query document

def AllMatch : List Query → δ → Prop
  | [], _ => True
  | query :: rest, document => Matches query document ∧ AllMatch rest document

def AnyMatches : List Query → δ → Prop
  | [], _ => False
  | query :: rest, document => Matches query document ∨ AnyMatches rest document

end

end Meaning

variable {asks : Query → δ → Prop} {document : δ}

theorem allMatch_iff (queries : List Query) :
    AllMatch asks queries document ↔ ∀ query ∈ queries, query.Matches asks document := by
  induction queries with
  | nil => simp [AllMatch]
  | cons query rest ih => simp [AllMatch, ih]

theorem anyMatches_iff (queries : List Query) :
    AnyMatches asks queries document ↔ ∃ query ∈ queries, query.Matches asks document := by
  induction queries with
  | nil => simp [AnyMatches]
  | cons query rest ih => simp [AnyMatches, ih]

theorem matches_bool_iff (must should : List Query) :
    (bool must should).Matches asks document ↔
      (∀ query ∈ must, query.Matches asks document) ∧
        (must = [] → should ≠ [] → ∃ query ∈ should, query.Matches asks document) := by
  rw [Matches, allMatch_iff, anyMatches_iff]

/-- Where something is required, preferred clauses do not matter. -/
theorem matches_bool_of_must {must should : List Query} (h : should ≠ [] → must ≠ []) :
    (bool must should).Matches asks document ↔ ∀ query ∈ must, query.Matches asks document := by
  rw [matches_bool_iff, and_iff_left_iff_imp]
  exact fun _ hmust hshould => absurd hmust (h hshould)

/-- A conjunction asks for both queries, whatever their shapes. -/
theorem matches_and_iff (first second : Query) :
    (first.and second).Matches asks document ↔
      first.Matches asks document ∧ second.Matches asks document := by
  -- Only a boolean query without preferred clauses takes the second query in.
  have hpair (query : Query) : (bool [query, second] []).Matches asks document ↔
      query.Matches asks document ∧ second.Matches asks document := by
    simp [matches_bool_iff]
  cases first with
  | bool must should =>
    cases should with
    | nil =>
      have htaken : (bool must []).and second = bool (must ++ [second]) [] := rfl
      rw [htaken, matches_bool_of_must (by simp), matches_bool_of_must (by simp)]
      simp only [List.forall_mem_append, List.forall_mem_singleton]
    | cons preferred others => exact hpair _
  | _ => exact hpair _

end Query

variable {asks : Query → δ → Prop} {document : δ}

namespace DocumentSchema

variable (schema : DocumentSchema) (innerHitsSize : Nat) (filter : List FilterField)

theorem must_compile :
    (schema.compile innerHitsSize filter).must = (Leaves.ofFilter schema filter).queries := by
  rw [compile_eq_grouped]
  rfl

/-- There is no nested query without a leaf. -/
theorem must_ne_nil_of_nested (h : (schema.compile innerHitsSize filter).nested ≠ []) :
    (schema.compile innerHitsSize filter).must ≠ [] := by
  rw [compile_eq_grouped] at h ⊢
  intro hmust
  have hnone : Leaves.ofFilter schema filter = [] := List.map_eq_nil_iff.mp hmust
  rw [hnone] at h
  exact h rfl

/-- A compiled filter asks for all of its leaves. -/
theorem matches_compile_iff :
    (schema.compile innerHitsSize filter).toQuery.Matches asks document ↔
      ∀ field ∈ filter, ∀ value d, field.ignored = false → field.value = some value →
        schema.resolve field.lookupName = some d → (value.leaf d).Matches asks document := by
  rw [CompiledFilter.toQuery,
    Query.matches_bool_of_must (schema.must_ne_nil_of_nested innerHitsSize filter), must_compile]
  constructor
  · intro hall field hfield value d hignored hvalue hresolved
    have hleaf : (d.wireNestedPath, value.leaf d) ∈ Leaves.ofFilter schema filter :=
      List.mem_filterMap.mpr ⟨field, hfield, (field.asks?_eq_some_iff schema _).mpr
        ⟨value, d, hignored, hvalue, hresolved, rfl⟩⟩
    exact hall _ (List.mem_map_of_mem hleaf)
  · intro hall query hquery
    obtain ⟨leaf, hleaf, rfl⟩ := List.mem_map.mp hquery
    obtain ⟨field, hfield, hasks⟩ := List.mem_filterMap.mp hleaf
    obtain ⟨value, d, hignored, hvalue, hresolved, rfl⟩ :=
      (field.asks?_eq_some_iff schema leaf).mp hasks
    exact hall field hfield value d hignored hvalue hresolved

end DocumentSchema

/-- What a compiled filter finds. Conjunctions ask for both sides; a compiled filter
asks for the leaf of every field that has one and for nothing else, its nested
queries notwithstanding. So the order of fields and their repetitions do not matter,
and with more fields there is less to be found. -/
theorem matches_compile_leaves (asks : Query → δ → Prop) (document : δ) :
    (∀ first second : Query, (first.and second).Matches asks document ↔
      first.Matches asks document ∧ second.Matches asks document) ∧
    ∀ (schema : DocumentSchema) (innerHitsSize : Nat) (filter : List FilterField),
      ((schema.compile innerHitsSize filter).nested ≠ [] →
        (schema.compile innerHitsSize filter).must ≠ []) ∧
      ((schema.compile innerHitsSize filter).toQuery.Matches asks document ↔
        (Query.bool (schema.compile innerHitsSize filter).must []).Matches asks document) ∧
      ((schema.compile innerHitsSize filter).toQuery.Matches asks document ↔
        ∀ field ∈ filter, ∀ value d, field.ignored = false → field.value = some value →
          schema.resolve field.lookupName = some d → (value.leaf d).Matches asks document) ∧
      (∀ other : List FilterField, (∀ field, field ∈ other ↔ field ∈ filter) →
        ((schema.compile innerHitsSize other).toQuery.Matches asks document ↔
          (schema.compile innerHitsSize filter).toQuery.Matches asks document)) ∧
      ∀ other : List FilterField, filter ⊆ other →
        (schema.compile innerHitsSize other).toQuery.Matches asks document →
          (schema.compile innerHitsSize filter).toQuery.Matches asks document := by
  refine ⟨Query.matches_and_iff, fun schema innerHitsSize filter => ?_⟩
  have hnested := schema.must_ne_nil_of_nested innerHitsSize filter
  refine ⟨hnested, ?_, schema.matches_compile_iff innerHitsSize filter, ?_, ?_⟩
  · rw [CompiledFilter.toQuery, Query.matches_bool_of_must hnested,
      Query.matches_bool_of_must (by simp)]
  · intro other hsame
    simp only [DocumentSchema.matches_compile_iff, hsame]
  · intro other hmore hmatches
    rw [DocumentSchema.matches_compile_iff] at hmatches ⊢
    exact fun field hfield => hmatches field (hmore hfield)

end SearchStore
