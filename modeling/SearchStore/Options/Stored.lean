import SearchStore.Json.Decoding
import SearchStore.Options.Basic

/-!
Options as they are kept in documents. Both halves stand side by side in one
object. What is left out has its default; only what has no default may be `null`.
-/

namespace SearchStore

open Json

def ConnectionOptions.ofStored? (stored : Json) : Option ConnectionOptions := do
  let members ← stored.asObject?
  let defaults : ConnectionOptions := {}
  return {
    uri := ← withDefault asString? defaults.uri members "uri"
    cloudId := ← optional asString? members "cloud_id"
    userName := ← optional asString? members "user_name"
    password := ← optional asString? members "password"
    requestTimeoutMs :=
      ← withDefault (asUnsigned? 64) defaults.requestTimeoutMs members "request_timeout_ms"
  }

def RepositoryOptions.ofStored? (stored : Json) : Option RepositoryOptions := do
  let members ← stored.asObject?
  let defaults : RepositoryOptions := {}
  return {
    index := ← withDefault asString? defaults.index members "index"
    useRolloverAlias :=
      ← withDefault asBool? defaults.useRolloverAlias members "use_rollover_alias"
    ownPattern := ← optional asString? members "pattern"
    maxSizeGb := ← withDefault (asUnsigned? 32) defaults.maxSizeGb members "max_size_gb"
    maxDocuments := ← optional (asUnsigned? 64) members "max_documents"
    maxInnerResultWindow :=
      ← withDefault (asUnsigned? 32) defaults.maxInnerResultWindow members "max_inner_result_window"
    maxAttempts := ← withDefault (asUnsigned? 32) defaults.maxAttempts members "nb_retries_call"
    bulkChunkSize := ← withDefault (asUnsigned? 64) defaults.bulkChunkSize members "bulk_chunk_size"
    refreshIntervalMs :=
      ← withDefault (asUnsigned? 64) defaults.refreshIntervalMs members "refresh_interval_ms"
    retryTransientOnly :=
      ← withDefault asBool? defaults.retryTransientOnly members "retry_transient_only"
  }

def Options.ofStored? (stored : Json) : Option Options := do
  return {
    connection := ← ConnectionOptions.ofStored? stored
    repository := ← RepositoryOptions.ofStored? stored
  }

end SearchStore
