import SearchStore.Error
import SearchStore.Text.Blank

/-!
Options of a connection and of a repository, and what they must fulfil before
anything is done with them.
-/

namespace SearchStore

structure ConnectionOptions where
  uri : String := "http://localhost:9200"
  cloudId : Option String := none
  userName : Option String := none
  password : Option String := none
  requestTimeoutMs : Nat := 120000
deriving DecidableEq, Repr

structure RepositoryOptions where
  /-- The index, or the alias behind which indices roll over. -/
  index : String := ""
  useRolloverAlias : Bool := false
  /-- What the names of indices behind an alias begin with, if not the alias. -/
  ownPattern : Option String := none
  maxSizeGb : Nat := 10
  maxDocuments : Option Nat := none
  maxInnerResultWindow : Nat := 1000
  maxAttempts : Nat := 5
  bulkChunkSize : Nat := 50000
  refreshIntervalMs : Nat := 1000
  retryTransientOnly : Bool := false
deriving DecidableEq, Repr

structure Options where
  connection : ConnectionOptions := {}
  repository : RepositoryOptions := {}
deriving DecidableEq, Repr

namespace ConnectionOptions

def deployment? (options : ConnectionOptions) : Option String := options.cloudId.filter (· ≠ "")

/-- User and password, when neither is missing or empty. -/
def credentials? (options : ConnectionOptions) : Option (String × String) := do
  let user ← options.userName.filter (· ≠ "")
  let password ← options.password.filter (· ≠ "")
  return (user, password)

/-- A cloud deployment needs credentials, any other connection an address. -/
def validate (options : ConnectionOptions) : Except OptionError Unit := do
  match options.deployment? with
  | some _ => if options.credentials?.isNone then throw (.missing "user_name/password")
  | none => if Text.isBlank options.uri then throw (.missing "uri")
  if options.requestTimeoutMs = 0 then throw (.invalid "request_timeout_ms" "cannot be 0")

end ConnectionOptions

namespace RepositoryOptions

/-- What the names of indices behind an alias begin with. -/
def pattern (options : RepositoryOptions) : String :=
  (options.ownPattern.filter (· ≠ "")).getD options.index

def validate (options : RepositoryOptions) : Except OptionError Unit := do
  if Text.isBlank options.index then throw (.missing "index")
  if options.index.toList.any Char.isUpper then
    throw (.invalid "index" ("index names must be lowercase, got " ++ options.index))
  if options.bulkChunkSize = 0 then throw (.invalid "bulk_chunk_size" "cannot be 0")
  if options.useRolloverAlias ∧ options.maxSizeGb = 0 then
    throw (.invalid "max_size_gb" "cannot be 0 with a rollover alias")

end RepositoryOptions

def Options.validate (options : Options) : Except OptionError Unit := do
  options.connection.validate
  options.repository.validate

end SearchStore
