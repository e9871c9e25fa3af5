import SearchStore.Options.Basic

/-!
Options from a command line and from environment variables. An argument wins
over its variable and the variable over the default. An option takes a value, in
the same argument after an equals sign or in the next one; a flag takes none.
Nothing may be given twice, and there are no other arguments.
-/

namespace SearchStore

/-- An option of the command line and the variable that stands in for it. -/
structure Setting where
  argument : String
  variableName : String
  isFlag : Bool := false
deriving DecidableEq, Repr

namespace Setting

def uri : Setting := ⟨"--uri", "ELASTIC_URI", false⟩
def cloudId : Setting := ⟨"--cloud-id", "ELASTIC_CLOUD_ID", false⟩
def userName : Setting := ⟨"--username", "ELASTIC_USERNAME", false⟩
def password : Setting := ⟨"--password", "ELASTIC_PASSWORD", false⟩
def requestTimeoutMs : Setting := ⟨"--request-timeout-ms", "ELASTIC_REQUEST_TIMEOUT_MS", false⟩
def index : Setting := ⟨"--index", "ELASTIC_INDEX", false⟩
def useRolloverAlias : Setting := ⟨"--use-rollover-alias", "ELASTIC_USE_ROLLOVER_ALIAS", true⟩
def pattern : Setting := ⟨"--pattern", "ELASTIC_PATTERN", false⟩
def maxSizeGb : Setting := ⟨"--max-size-gb", "ELASTIC_MAX_SIZE_GB", false⟩
def maxDocuments : Setting := ⟨"--max-documents", "ELASTIC_MAX_DOCUMENTS", false⟩
def maxInnerResultWindow : Setting :=
  ⟨"--max-inner-result-window", "ELASTIC_MAX_INNER_RESULT_WINDOW", false⟩
def maxAttempts : Setting := ⟨"--nb-retries-call", "ELASTIC_RETRIES", false⟩
def bulkChunkSize : Setting := ⟨"--bulk-chunk-size", "ELASTIC_BULK_CHUNK_SIZE", false⟩
def refreshIntervalMs : Setting := ⟨"--refresh-interval-ms", "ELASTIC_REFRESH_INTERVAL_MS", false⟩
def retryTransientOnly : Setting :=
  ⟨"--retry-transient-only", "ELASTIC_RETRY_TRANSIENT_ONLY", true⟩

def all : List Setting := [uri, cloudId, userName, password, requestTimeoutMs, index,
  useRolloverAlias, pattern, maxSizeGb, maxDocuments, maxInnerResultWindow, maxAttempts,
  bulkChunkSize, refreshIntervalMs, retryTransientOnly]

end Setting

abbrev Assignment := List (Setting × String)

namespace Assignment

def add (given : Assignment) (setting : Setting) (text : String) : Option Assignment :=
  if given.any (·.1 = setting) then none else some ((setting, text) :: given)

/-- Whether an argument may be the value of the option before it. A lone hyphen
may; what else begins with one is an option. -/
def isValue (argument : String) : Bool := argument = "-" || argument.toList.head? ≠ some '-'

def setting? (argument : String) : Option Setting :=
  Setting.all.find? (·.argument = argument)

/-- Reads the arguments one after the other. Two hyphens may stand at the end. -/
def ofArguments? (given : Assignment) : List String → Option Assignment
  | [] => some given
  | ["--"] => some given
  | argument :: rest =>
    match setting? argument with
    | some setting =>
      if setting.isFlag then
        match given.add setting "true" with
        | some given => ofArguments? given rest
        | none => none
      else
        match rest with
        | [] => none
        | value :: rest =>
          if isValue value then
            match given.add setting value with
            | some given => ofArguments? given rest
            | none => none
          else none
    | none =>
      let chars := argument.toList
      let name := String.ofList (chars.takeWhile (· ≠ '='))
      match (setting? name).filter (fun setting => !setting.isFlag && chars.contains '=') with
      | some setting =>
        match given.add setting (String.ofList ((chars.dropWhile (· ≠ '=')).drop 1)) with
        | some given => ofArguments? given rest
        | none => none
      | none => none

/-- What is given for a setting, or else the text of its variable. -/
def text? (given : Assignment) (environment : List (String × String)) (setting : Setting) :
    Option String :=
  (given.lookup setting).or (environment.lookup setting.variableName)

end Assignment

/-- Reads an unsigned number of at most so many bits: digits after an optional
plus sign. -/
def parseUnsigned? (bits : Nat) (text : String) : Option Nat :=
  let digits := match text.toList with
    | '+' :: rest => rest
    | chars => chars
  if digits.isEmpty || !digits.all Char.isDigit then none
  else
    let n := digits.foldl (fun n c => n * 10 + (c.toNat - '0'.toNat)) 0
    if n < Nat.pow 2 bits then some n else none

/-- Reads a number of at most 32 bits. Such a number may have either sign, so
that a negative zero is a zero. -/
def parseSmall? (text : String) : Option Nat :=
  match text.toList with
  | '-' :: digits => if !digits.isEmpty && digits.all (· = '0') then some 0 else none
  | _ => parseUnsigned? 32 text

def parseFlag? : String → Option Bool
  | "true" => some true
  | "false" => some false
  | _ => none

def Options.ofArguments? (arguments : List String) (environment : List (String × String)) :
    Option Options := do
  let given ← Assignment.ofArguments? [] arguments
  let text (setting : Setting) := given.text? environment setting
  let small (default : Nat) (setting : Setting) : Option Nat :=
    match text setting with
    | some digits => parseSmall? digits
    | none => some default
  let large (default : Nat) (setting : Setting) : Option Nat :=
    match text setting with
    | some digits => parseUnsigned? 64 digits
    | none => some default
  let flag (setting : Setting) : Option Bool :=
    match text setting with
    | some word => parseFlag? word
    | none => some false
  let connection : ConnectionOptions := {}
  let repository : RepositoryOptions := {}
  return {
    connection := {
      uri := (text .uri).getD connection.uri
      cloudId := text .cloudId
      userName := text .userName
      password := text .password
      requestTimeoutMs := ← large connection.requestTimeoutMs .requestTimeoutMs
    }
    repository := {
      index := (text .index).getD repository.index
      useRolloverAlias := ← flag .useRolloverAlias
      ownPattern := text .pattern
      maxSizeGb := ← small repository.maxSizeGb .maxSizeGb
      maxDocuments := ←
        match text .maxDocuments with
        | some digits => (parseUnsigned? 64 digits).map some
        | none => some none
      maxInnerResultWindow := ← small repository.maxInnerResultWindow .maxInnerResultWindow
      maxAttempts := ← small repository.maxAttempts .maxAttempts
      bulkChunkSize := ← large repository.bulkChunkSize .bulkChunkSize
      refreshIntervalMs := ← large repository.refreshIntervalMs .refreshIntervalMs
      retryTransientOnly := ← flag .retryTransientOnly
    }
  }

end SearchStore
