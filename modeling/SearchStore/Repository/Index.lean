import SearchStore.Repository.Basic
import SearchStore.Text.LowerCase

/-!
The index behind a repository: creating and deleting it, its statistics and its
health. Behind an alias indices roll over: the first one is created with the
alias as its write index, under a lifecycle policy and an index template.
-/

namespace SearchStore

structure IndexStats where
  documentCount : Nat
  deletedDocuments : Nat
  sizeInBytes : Nat
deriving DecidableEq, Repr

def IndexStats.ofPrimaries (primaries : Json) : IndexStats :=
  let read (path : List String) : Nat := ((primaries.at? path).bind (Json.asUnsigned? 64)).getD 0
  { documentCount := read ["docs", "count"]
    deletedDocuments := read ["docs", "deleted"]
    sizeInBytes := read ["store", "size_in_bytes"] }

structure ClusterHealth where
  clusterName : String := ""
  status : String := ""
  timedOut : Bool := false
  numberOfNodes : Nat := 0
  numberOfDataNodes : Nat := 0
  activePrimaryShards : Nat := 0
  activeShards : Nat := 0
  relocatingShards : Nat := 0
  initializingShards : Nat := 0
  unassignedShards : Nat := 0
deriving DecidableEq, Repr

namespace ClusterHealth

def isGreen (health : ClusterHealth) : Bool := health.status = "green"

/-- Reads a report; what it leaves out has its default. -/
def ofJson? (report : Json) : Option ClusterHealth := do
  let members ← report.asObject?
  let text := Json.withDefault Json.asString? "" members
  let number := Json.withDefault (Json.asUnsigned? 32) 0 members
  return {
    clusterName := ← text "cluster_name"
    status := ← text "status"
    timedOut := ← Json.withDefault Json.asBool? false members "timed_out"
    numberOfNodes := ← number "number_of_nodes"
    numberOfDataNodes := ← number "number_of_data_nodes"
    activePrimaryShards := ← number "active_primary_shards"
    activeShards := ← number "active_shards"
    relocatingShards := ← number "relocating_shards"
    initializingShards := ← number "initializing_shards"
    unassignedShards := ← number "unassigned_shards"
  }

end ClusterHealth

namespace Repository

variable {σ : Type}

def indexExists (repo : Repository σ) (name : String) : Action σ Bool :=
  repo.call (.indexExists name)

def indexSettings (repo : Repository σ) : Json :=
  .obj [("index", .obj [("max_inner_result_window", .int repo.options.maxInnerResultWindow)])]

/-- The lifecycle policy of the document type is named after it. -/
def lifecyclePolicy (repo : Repository σ) : String := Text.lower repo.schema.typeName

def lifecycleBody (repo : Repository σ) : Json :=
  let rollover : Json := .obj [
    ("max_docs", .int (repo.options.maxDocuments.getD 2147483647)),
    ("max_size", .str (toString repo.options.maxSizeGb ++ "gb"))]
  .obj [("policy", .obj [("phases", .obj [("hot", .obj [("actions", .obj [
    ("rollover", rollover)])])])])]

def templateBody (repo : Repository σ) : Json :=
  .obj [
    ("index_patterns", .strings [repo.options.pattern ++ "-*"]),
    ("template", .obj [
      ("settings", .obj [
        ("index.lifecycle.name", .str repo.lifecyclePolicy),
        ("index.lifecycle.rollover_alias", .str repo.index)]),
      ("mappings", .obj [])])]

def firstIndex (repo : Repository σ) : String := repo.options.pattern ++ "-000001"

/-- Installs the template, and the lifecycle policy unless there is one. -/
def prepareRollover (repo : Repository σ) : Action σ Unit := do
  if (← repo.call (.getLifecycle repo.lifecyclePolicy)).isNone then
    repo.call (.putLifecycle repo.lifecyclePolicy repo.lifecycleBody)
  repo.call (.putIndexTemplate repo.options.pattern repo.templateBody)

/-- Creates an index unless it exists, and says whether it did. -/
def createUnlessExists (repo : Repository σ) (name : String) (body : Json) : Action σ Bool := do
  if ← repo.indexExists name then return false
  repo.call (.createIndex name body)
  return true

/-- Creates the index of the repository, behind an alias the first one. The
result says whether it was created. -/
def createIndex (repo : Repository σ) : Action σ Bool := do
  if repo.options.useRolloverAlias then
    if !(← repo.indexExists repo.index) then repo.prepareRollover
    repo.createUnlessExists repo.firstIndex (.obj [("settings", repo.indexSettings),
      ("aliases", .obj [(repo.index, .obj [("is_write_index", .bool true)])])])
  else repo.createUnlessExists repo.index (.obj [("settings", repo.indexSettings)])

def everything : Json := .obj [("query_string", .obj [("query", .str "*")])]

/-- Deletes all documents and the index. Behind an alias that exists, its
indices are emptied side by side, then deleted side by side, and then the alias
is deleted; how the single indices fared does not matter. -/
def deleteIndex (repo : Repository σ) : Action σ Unit := do
  let rolled ← if repo.options.useRolloverAlias then repo.indexExists repo.index else pure false
  if rolled then
    let members ← repo.call (.getAlias repo.index)
    repo.callAll (members.map (.deleteByQuery · everything))
    repo.callAll (members.map .deleteIndex)
    repo.call (.deleteAlias repo.index)
  else
    repo.call (.deleteByQuery repo.index everything)
    repo.call (.deleteIndex repo.index)

def primaries (repo : Repository σ) : Action σ (Option Json) := do
  return (← repo.call (.indexStats repo.index)).at? ["_all", "primaries"]

/-- The size of the primary shards in bytes. -/
def indexSize (repo : Repository σ) : Action σ (Option Nat) := do
  return (← repo.primaries).bind fun primaries =>
    (primaries.at? ["store", "size_in_bytes"]).bind (Json.asUnsigned? 64)

def indexStats (repo : Repository σ) : Action σ (Option IndexStats) := do
  return (← repo.primaries).map IndexStats.ofPrimaries

def health (repo : Repository σ) : Action σ ClusterHealth := do
  match ClusterHealth.ofJson? (← repo.call (.clusterHealth repo.index)) with
  | some health => return health
  | none => throw (.serialization "not a report of cluster health")

end Repository

end SearchStore
