import SearchStore.Http.Address
import SearchStore.Http.Message
import SearchStore.Options.Basic
import SearchStore.Repository.Basic
import SearchStore.Text.Quoted

/-!
The engine at the other end of a network. A client turns a call into a request,
hands it to the network with its credentials, and reads the response; when no
response arrives the call has failed in transport.
-/

namespace SearchStore.Http

/-- A network takes a request, with the authorization that goes with it, and
gives a response or the reason why there is none. -/
structure Network (ν : Type) where
  exchange : (authorization : Option String) → Request → ν → Attempt String Response × ν

structure Client where
  credentials : Option (String × String)

namespace Client

/-- A client for the deployment that the options name, or else for the address. -/
def new (options : ConnectionOptions) : Except OptionError Client := do
  options.validate
  match options.deployment? with
  | some deployment =>
    if !isDeployment deployment then throw (.invalid "cloud_id" "not a cloud deployment")
  | none => if !isAddress options.uri then throw (.invalid "uri" "not an address")
  return { credentials := options.credentials? }

def authorization (client : Client) : Option String :=
  client.credentials.map fun (user, password) => basicAuthorization user password

def engine {ν : Type} (client : Client) (network : Network ν) : Engine ν where
  respond call state :=
    let (exchange, state) := network.exchange client.authorization (request call) state
    let outcome : Except EngineError call.Answer :=
      match exchange.outcome with
      | .ok response => read call response
      | .error reason => .error (.transport reason)
    ({ exchange with outcome }, state)

/-- The text of a client in diagnostics, without what it must not show. -/
def diagnostic (_ : Client) : String := "ElasticsearchClient \x7b .. \x7d"

end Client

end SearchStore.Http

namespace SearchStore

/-- The wait of a policy in diagnostics, in the largest unit of which it is at
least one, with the digits that it needs. -/
def RetryPolicy.delayText (policy : RetryPolicy) : String :=
  let seconds := policy.delayUnit / 1000
  let thousandths := toString (1000 + policy.delayUnit % 1000)
  let fraction := ((thousandths.toList.drop 1).reverse.dropWhile (· = '0')).reverse
  if policy.delayUnit = 0 then "0ns"
  else if seconds = 0 then toString policy.delayUnit ++ "ms"
  else if fraction.isEmpty then toString seconds ++ "s"
  else toString seconds ++ "." ++ String.ofList fraction ++ "s"

namespace Repository

def connect {ν : Type} (options : Options) (types : TypeTable) (network : Http.Network ν) :
    Except RepositoryError (Repository ν) := do
  options.validate.mapError .configuration
  let client ← (Http.Client.new options.connection).mapError .configuration
  Repository.new options.repository types (client.engine network)

def diagnostic {σ : Type} (repo : Repository σ) : String :=
  "Repository \x7b index: " ++ Text.quoted repo.index
    ++ ", document: " ++ Text.quoted repo.schema.typeName
    ++ ", retry: RetryPolicy \x7b max_attempts: " ++ toString repo.retry.maxAttempts
    ++ ", delay_unit: " ++ repo.retry.delayText ++ " \x7d, .. \x7d"

end Repository

end SearchStore
