import SearchStore.Proofs.FirstMention
import SearchStore.Proofs.Repository.Exchange

/-!
What an engine keeps besides documents: its indices with the aliases that they stand
behind, the lifecycle policies and the index templates. A new index stands behind the
aliases that its body names, and an index that is deleted stands behind none any more;
so an alias is there as long as an index stands behind it.

An index is created once, and what is put takes the place of what was there. A call
that registers something therefore comes to the same when it is carried out again.
-/

namespace SearchStore

variable {σ : Type}

/-- An index: what it was created with, and the aliases that it stands behind, each with
whether the index is the one that is written under the alias. -/
structure IndexEntry where
  name : String
  body : Json
  aliases : List (String × Bool)

namespace IndexEntry

def aliasesOf (body : Json) : List (String × Bool) :=
  (((body.get? "aliases").bind Json.asObject?).getD []).map fun (aliasName, properties) =>
    (aliasName, (properties.get? "is_write_index").bind Json.asBool? = some true)

def create (name : String) (body : Json) : IndexEntry := ⟨name, body, aliasesOf body⟩

def standsBehind (entry : IndexEntry) (aliasName : String) : Bool :=
  entry.aliases.any fun used => used.1 = aliasName

def isWritten (entry : IndexEntry) (aliasName : String) : Bool :=
  entry.aliases.any fun used => used.1 = aliasName && used.2

/-- The index that is no longer written under an alias. -/
def release (entry : IndexEntry) (aliasName : String) : IndexEntry :=
  { entry with
    aliases := entry.aliases.map fun used => (used.1, used.2 && used.1 ≠ aliasName) }

/-- Whether a name means the index, be it its own or that of an alias. -/
def answersTo (entry : IndexEntry) (name : String) : Bool :=
  entry.name = name || entry.standsBehind name

theorem answersTo_name (entry : IndexEntry) : entry.answersTo entry.name = true := by
  simp [answersTo]

theorem isWritten_release (entry : IndexEntry) (aliasName : String) :
    (entry.release aliasName).isWritten aliasName = false := by
  rw [isWritten, List.any_eq_false]
  intro used hused hwritten
  obtain ⟨kept, -, rfl⟩ := List.mem_map.mp hused
  simp only [ne_eq, decide_not, Bool.and_eq_true, Bool.not_eq_true', decide_eq_true_eq,
    decide_eq_false_iff_not] at hwritten
  exact hwritten.2.2 hwritten.1

theorem standsBehind_of_isWritten {entry : IndexEntry} {aliasName : String}
    (h : entry.isWritten aliasName = true) : entry.standsBehind aliasName = true := by
  obtain ⟨used, hused, hwritten⟩ := List.any_eq_true.mp h
  rw [Bool.and_eq_true] at hwritten
  exact List.any_eq_true.mpr ⟨used, hused, hwritten.1⟩

end IndexEntry

/-- Indices in the order of their creation, and policies and templates by name. -/
structure Cluster where
  indices : List IndexEntry := []
  policies : List (String × Json) := []
  templates : List (String × Json) := []

namespace Cluster

def knows (cluster : Cluster) (name : String) : Bool :=
  cluster.indices.any fun entry => entry.answersTo name

def members (cluster : Cluster) (aliasName : String) : List String :=
  (cluster.indices.filter fun entry => entry.standsBehind aliasName).map IndexEntry.name

def writeIndices (cluster : Cluster) (aliasName : String) : List String :=
  (cluster.indices.filter fun entry => entry.isWritten aliasName).map IndexEntry.name

def create (cluster : Cluster) (name : String) (body : Json) : Cluster :=
  { cluster with indices := cluster.indices ++ [.create name body] }

def without (cluster : Cluster) (names : List String) : Cluster :=
  { cluster with indices := cluster.indices.filter fun entry => entry.name ∉ names }

/-- What a rollover leaves: of all indices behind the alias only the next one is written. -/
def rollOver (cluster : Cluster) (aliasName : String) (next : IndexEntry) : Cluster :=
  { cluster with
    indices := (cluster.indices.map fun entry => entry.release aliasName) ++ [next] }

/-- What a call leaves. An index is not created under a name that is taken. -/
def after (cluster : Cluster) : Engine.Call → Cluster
  | .createIndex name body => if cluster.knows name then cluster else cluster.create name body
  | .deleteIndex name => cluster.without [name]
  | .deleteAlias aliasName =>
    { cluster with
      indices := cluster.indices.map fun entry =>
        { entry with aliases := entry.aliases.filter fun used => used.1 ≠ aliasName } }
  | .putLifecycle policy body =>
    { cluster with policies := Json.setMember policy body cluster.policies }
  | .putIndexTemplate name body =>
    { cluster with templates := Json.setMember name body cluster.templates }
  | _ => cluster

section Lemmas

variable (cluster : Cluster) (name : String) (body : Json)

theorem knows_create (other : String) :
    (cluster.create name body).knows other =
      (cluster.knows other || (IndexEntry.create name body).answersTo other) := by
  simp [create, knows]

/-- Once it has been created, an index is there. -/
theorem knows_createIndex_self :
    (cluster.after (.createIndex name body)).knows name = true := by
  by_cases h : cluster.knows name = true
  · simp [after, h]
  · have hself : (IndexEntry.create name body).answersTo name = true :=
      (IndexEntry.create name body).answersTo_name
    simp [after, h, knows_create, hself]

theorem createIndex_of_knows (h : cluster.knows name = true) :
    cluster.after (.createIndex name body) = cluster := by
  simp [after, h]

theorem createIndex_of_not_knows (h : cluster.knows name = false) :
    cluster.after (.createIndex name body) = cluster.create name body := by
  simp [after, h]

theorem lookup_putLifecycle (policy other : String) :
    (cluster.after (.putLifecycle policy body)).policies.lookup other =
      if other = policy then some body else cluster.policies.lookup other :=
  Json.lookup_setMember policy body cluster.policies other

theorem policies_createIndex :
    (cluster.after (.createIndex name body)).policies = cluster.policies := by
  by_cases h : cluster.knows name = true <;> simp [after, h, create]

theorem members_of_knows_eq_false {aliasName : String} (h : cluster.knows aliasName = false) :
    cluster.members aliasName = [] := by
  rw [members, List.map_eq_nil_iff, List.filter_eq_nil_iff]
  intro entry hentry hbehind
  have hnot := List.any_eq_false.mp h entry hentry
  simp [IndexEntry.answersTo, hbehind] at hnot

/-- An alias is there as long as an index stands behind it. -/
theorem knows_of_members_ne_nil {aliasName : String} (h : cluster.members aliasName ≠ []) :
    cluster.knows aliasName = true := by
  by_contra hnot
  exact h (cluster.members_of_knows_eq_false (Bool.eq_false_iff.mpr hnot))

/-- The index that is written under an alias stands behind it. -/
theorem mem_members_of_mem_writeIndices {aliasName index : String}
    (h : index ∈ cluster.writeIndices aliasName) : index ∈ cluster.members aliasName := by
  obtain ⟨entry, hentry, rfl⟩ := List.mem_map.mp h
  obtain ⟨hthere, hwritten⟩ := List.mem_filter.mp hentry
  have hbehind := IndexEntry.standsBehind_of_isWritten hwritten
  exact List.mem_map_of_mem (List.mem_filter.mpr ⟨hthere, hbehind⟩)

theorem knows_of_writeIndices_ne_nil {aliasName : String}
    (h : cluster.writeIndices aliasName ≠ []) : cluster.knows aliasName = true := by
  obtain ⟨index, hindex⟩ := List.exists_mem_of_ne_nil _ h
  have hmember := cluster.mem_members_of_mem_writeIndices hindex
  exact cluster.knows_of_members_ne_nil (List.ne_nil_of_mem hmember)

/-- To remove an alias that is not there changes nothing. -/
theorem deleteAlias_of_members_eq_nil {aliasName : String} (h : cluster.members aliasName = []) :
    cluster.after (.deleteAlias aliasName) = cluster := by
  rw [members, List.map_eq_nil_iff, List.filter_eq_nil_iff] at h
  have hsame : ∀ entry ∈ cluster.indices,
      { entry with aliases := entry.aliases.filter fun used => used.1 ≠ aliasName } = entry := by
    intro entry hentry
    have hfree : ∀ used ∈ entry.aliases, decide (used.1 ≠ aliasName) = true := by
      intro used hused
      have hnot := h entry hentry
      rw [IndexEntry.standsBehind, List.any_eq_true] at hnot
      exact decide_eq_true fun heq => hnot ⟨used, hused, decide_eq_true heq⟩
    rw [List.filter_eq_self.mpr hfree]
  simp only [after]
  rw [List.map_congr_left hsame, List.map_id']

theorem without_without (names others : List String) :
    (cluster.without names).without others = cluster.without (names ++ others) := by
  simp [without, List.filter_filter, Bool.and_comm]

/-- An alias is gone with the indices behind it. -/
theorem members_without_of_subset {aliasName : String} {names : List String}
    (h : cluster.members aliasName ⊆ names) : (cluster.without names).members aliasName = [] := by
  rw [members, List.map_eq_nil_iff, List.filter_eq_nil_iff]
  intro entry hentry hbehind
  obtain ⟨hthere, hkept⟩ := List.mem_filter.mp hentry
  have hmember : entry.name ∈ cluster.members aliasName :=
    List.mem_map_of_mem (List.mem_filter.mpr ⟨hthere, hbehind⟩)
  simp [h hmember] at hkept

theorem writeIndices_rollOver {aliasName : String} {next : IndexEntry}
    (h : next.isWritten aliasName = true) :
    (cluster.rollOver aliasName next).writeIndices aliasName = [next.name] := by
  have hnone : (cluster.indices.map fun entry => entry.release aliasName).filter
      (fun entry => entry.isWritten aliasName) = [] := by
    rw [List.filter_eq_nil_iff]
    intro entry hentry
    obtain ⟨kept, -, rfl⟩ := List.mem_map.mp hentry
    simp [IndexEntry.isWritten_release]
  rw [writeIndices, rollOver, List.filter_append, hnone]
  simp [h]

theorem length_writeIndices_without_le (names : List String) (aliasName : String) :
    ((cluster.without names).writeIndices aliasName).length ≤
      (cluster.writeIndices aliasName).length := by
  have hsublist : (cluster.without names).indices.Sublist cluster.indices := List.filter_sublist
  have hwritten := (hsublist.filter fun entry => entry.isWritten aliasName).length_le
  simpa [writeIndices] using hwritten

end Lemmas

end Cluster

/-- Whether a call registers something or asks what is registered. -/
def Engine.Call.registers : Engine.Call → Bool
  | .indexExists _ | .createIndex .. | .getLifecycle _ | .putLifecycle .. | .putIndexTemplate .. =>
    true
  | _ => false

/-- To register something again changes nothing. -/
theorem Cluster.after_after (cluster : Cluster) {call : Engine.Call} (h : call.registers = true) :
    (cluster.after call).after call = cluster.after call := by
  cases call with
  | createIndex name body =>
    exact createIndex_of_knows _ _ _ (cluster.knows_createIndex_self name body)
  | putLifecycle policy body =>
    simp only [after, Json.setMember_setMember]
  | putIndexTemplate name body =>
    simp only [after, Json.setMember_setMember]
  | _ => first | rfl | cases h

/-- An engine without faults with which indices, policies and templates are registered.
To create an index whose name is taken is refused. -/
structure Engine.RegistersIndices (engine : Engine σ) (cluster : σ → Cluster) : Prop where
  not_cancels : ∀ call state, (engine.respond call state).1.cancels = false
  cluster_eq : ∀ call state, call.registers = true →
    cluster (engine.respond call state).2 = (cluster state).after call
  indexExists : ∀ name state,
    engine.answer (.indexExists name) state = .ok ((cluster state).knows name)
  createIndex : ∀ name body state, (cluster state).knows name = false →
    engine.answer (.createIndex name body) state = .ok ()
  createIndex_refused : ∀ name body state, (cluster state).knows name = true →
    ∃ error, engine.answer (.createIndex name body) state = .error error
  getLifecycle : ∀ policy state, ∃ found,
    engine.answer (.getLifecycle policy) state = .ok found ∧
      found.isSome = ((cluster state).policies.lookup policy).isSome
  putLifecycle : ∀ policy body state, engine.answer (.putLifecycle policy body) state = .ok ()
  putIndexTemplate : ∀ name body state,
    engine.answer (.putIndexTemplate name body) state = .ok ()

/-- An engine without faults from which indices are removed as well. An alias without
indices is answered with status 404 when it is to be removed. -/
structure Engine.IsCluster (engine : Engine σ) (cluster : σ → Cluster) : Prop
    extends engine.RegistersIndices cluster where
  deleteByQuery : ∀ index query state,
    cluster (engine.respond (.deleteByQuery index query) state).2 = cluster state
  deleteIndex : ∀ index state,
    cluster (engine.respond (.deleteIndex index) state).2 =
      (cluster state).after (.deleteIndex index)
  getAlias : ∀ aliasName state,
    (∃ members, engine.answer (.getAlias aliasName) state = .ok members ∧
      ∀ index, index ∈ members ↔ index ∈ (cluster state).members aliasName) ∧
    cluster (engine.respond (.getAlias aliasName) state).2 = cluster state
  deleteAlias : ∀ aliasName state,
    cluster (engine.respond (.deleteAlias aliasName) state).2 =
      (cluster state).after (.deleteAlias aliasName)
  deleteAlias_present : ∀ aliasName state, (cluster state).members aliasName ≠ [] →
    engine.answer (.deleteAlias aliasName) state = .ok ()
  deleteAlias_absent : ∀ aliasName state, (cluster state).members aliasName = [] →
    ∃ reason, engine.answer (.deleteAlias aliasName) state = .error (.response 404 reason)

def Cluster.answer (cluster : Cluster) : (call : Engine.Call) → Except EngineError call.Answer
  | .indexExists name => .ok (cluster.knows name)
  | .createIndex name _ =>
    if cluster.knows name then .error (.response 400 "resource_already_exists_exception")
    else .ok ()
  | .deleteIndex name =>
    if cluster.indices.any (·.name = name) then .ok ()
    else .error (.response 404 "index_not_found_exception")
  | .getAlias aliasName => .ok (cluster.members aliasName)
  | .deleteAlias aliasName =>
    if cluster.members aliasName = [] then .error (.response 404 "aliases_not_found_exception")
    else .ok ()
  | .getLifecycle policy => .ok (cluster.policies.lookup policy)
  | .deleteByQuery .. | .putLifecycle .. | .putIndexTemplate .. => .ok ()
  | _ => .error (.unexpected "unknown call")

/-- An engine that keeps its indices, policies and templates and nothing else. -/
def Engine.catalog : Engine Cluster where
  respond call cluster := ({ outcome := cluster.answer call, duration := 10 }, cluster.after call)

theorem Engine.isCluster_catalog : catalog.IsCluster id where
  not_cancels _ _ := rfl
  cluster_eq _ _ _ := rfl
  indexExists _ _ := rfl
  createIndex name body cluster h := by
    simp only [id] at h
    simp [answer, catalog, Cluster.answer, h]
  createIndex_refused name body cluster h := by
    simp only [id] at h
    simp [answer, catalog, Cluster.answer, h]
  getLifecycle _ _ := ⟨_, rfl, rfl⟩
  putLifecycle _ _ _ := rfl
  putIndexTemplate _ _ _ := rfl
  deleteByQuery _ _ _ := rfl
  deleteIndex _ _ := rfl
  getAlias _ _ := ⟨⟨_, rfl, fun _ => Iff.rfl⟩, rfl⟩
  deleteAlias _ _ := rfl
  deleteAlias_present aliasName cluster h := by
    simp only [id] at h
    simp [answer, catalog, Cluster.answer, h]
  deleteAlias_absent aliasName cluster h := by
    simp only [id] at h
    exact ⟨"aliases_not_found_exception", by simp [answer, catalog, Cluster.answer, h]⟩

end SearchStore
