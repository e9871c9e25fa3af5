import SearchStore.Proofs.Containers
import SearchStore.Proofs.Http.Refusals

/-!
What an operation does over a network: the list of its transfers, each a request with the
response to it or the reason why there is none. A call makes one request at every attempt, and
unless it is cancelled the last one decides it. The transfers of a sequence of operations
follow each other. So what ends on a refusal reports it, as far as single calls are made one
after the other and their errors are passed on.
-/

namespace SearchStore

namespace Http

open SearchStore.Repository.Action

variable {ν α β : Type}

structure Transfer where
  call : Engine.Call
  outcome : Except String Response

inductive Network.Carries (network : Network ν) (authorization : Option String) :
    ν → List Transfer → ν → Prop
  | nil (state : ν) : Carries network authorization state [] state
  | cons {state final : ν} {rest : List Transfer} (call : Engine.Call)
      (hrest : Carries network authorization
        (network.exchange authorization (request call) state).2 rest final) :
      Carries network authorization state
        (⟨call, (network.exchange authorization (request call) state).1.outcome⟩ :: rest) final

theorem Network.Carries.append {network : Network ν} {authorization : Option String}
    {before middle after : ν} {first second : List Transfer}
    (hfirst : network.Carries authorization before first middle)
    (hsecond : network.Carries authorization middle second after) :
    network.Carries authorization before (first ++ second) after := by
  induction hfirst with
  | nil state => exact hsecond
  | cons call hrest ih => exact .cons call (ih hsecond)

theorem Network.Repeats.carries {network : Network ν} {authorization : Option String}
    {call : Engine.Call} {before after : ν} {outcomes : List (Except String Response)}
    (h : network.Repeats authorization (request call) before outcomes after) :
    network.Carries authorization before (outcomes.map (⟨call, ·⟩)) after := by
  induction h with
  | none state => exact .nil state
  | once hrest ih => exact .cons call ih

/-- A later state comes of an earlier one by these transfers and no others: all their calls
are on record, in their order. -/
structure Network.Carried (network : Network ν) (authorization : Option String)
    (before : EngineState ν) (transfers : List Transfer) (after : EngineState ν) : Prop where
  states : network.Carries authorization before.engine transfers after.engine
  calls : after.calls.map Prod.snd =
    (transfers.map Transfer.call).reverse ++ before.calls.map Prod.snd

theorem Network.Carried.append {network : Network ν} {authorization : Option String}
    {before middle after : EngineState ν} {first second : List Transfer}
    (hfirst : network.Carried authorization before first middle)
    (hsecond : network.Carried authorization middle second after) :
    network.Carried authorization before (first ++ second) after where
  states := hfirst.states.append hsecond.states
  calls := by
    rw [hsecond.calls, hfirst.calls]
    simp

theorem Network.Carried.length_calls {network : Network ν} {authorization : Option String}
    {before after : EngineState ν} {transfers : List Transfer}
    (h : network.Carried authorization before transfers after) :
    after.calls.length = transfers.length + before.calls.length := by
  simpa using congrArg List.length h.calls

/-- A response that refuses a call. A bulk request tells of refusals itself, and some calls
take the status for what is absent for an answer. -/
structure Response.IsRefusal (response : Response) (call : Engine.Call) : Prop where
  failed : isSuccessStatus response.status = false
  notBulk : call.isBulk = false
  notAbsence : call.allowsAbsence = true → response.status ≠ 404

/-- What ends on a refusal and is not cancelled reports it. -/
def ReportsRefusal (transfers : List Transfer) (result : Except RepositoryError α) : Prop :=
  ∀ earlier call response, transfers = earlier ++ [⟨call, .ok response⟩] →
    response.IsRefusal call → result ≠ .error .cancelled →
      result = .error (.engine (.response response.status (reasonOfBody response.body)))

namespace ReportsRefusal

variable {first second : List Transfer}

theorem nil (result : Except RepositoryError α) : ReportsRefusal [] result := fun _ _ _ h =>
  absurd h.symm (List.append_ne_nil_of_right_ne_nil _ (List.cons_ne_nil _ _))

/-- An error is passed on as it is. -/
theorem error {error : RepositoryError}
    (h : ReportsRefusal first (.error error : Except RepositoryError α)) :
    ReportsRefusal first (.error error : Except RepositoryError β) := by
  intro earlier call response hlast hrefusal hresult
  have hreported := h earlier call response hlast hrefusal fun hcancelled =>
    hresult (congrArg _ (Except.error.inj hcancelled))
  exact congrArg _ (Except.error.inj hreported)

/-- What has succeeded does not end on a refusal, so what follows it decides. -/
theorem append {a : α} {result : Except RepositoryError β}
    (hfirst : ReportsRefusal first (.ok a : Except RepositoryError α))
    (hsecond : ReportsRefusal second result) : ReportsRefusal (first ++ second) result := by
  intro earlier call response hlast hrefusal
  cases second using List.reverseRecOn with
  | nil =>
    rw [List.append_nil] at hlast
    exact nomatch hfirst earlier call response hlast hrefusal nofun
  | append_singleton rest last =>
    rw [← List.append_assoc] at hlast
    obtain ⟨-, hlast⟩ := List.append_inj' hlast rfl
    obtain rfl := List.singleton_inj.mp hlast
    exact hsecond rest call response rfl hrefusal

end ReportsRefusal

/-- How an operation goes from a session on over a network. It is cancelled only when
cancellation has fired, and void only if a wait cannot be measured. -/
structure Ran (network : Network ν) (authorization : Option String) (policy : RetryPolicy)
    (session : Session (EngineState ν)) (transfers : List Transfer)
    (ended : Except RepositoryError α × Session (EngineState ν)) : Prop where
  carried : network.Carried authorization session.state transfers ended.2.state
  refusal_reported : ReportsRefusal transfers ended.1
  cancelled_only : ended.1 = .error .cancelled → ended.2.isCancelled = true
  measured : policy.IsMeasurable → ended.2.overflowed = session.overflowed

/-- From every session on, the transfers of an operation and what comes of it are as said. -/
def Makes (network : Network ν) (authorization : Option String) (policy : RetryPolicy)
    (action : Repository.Action ν α)
    (gives : List Transfer → Except RepositoryError α → Prop) : Prop :=
  ∀ session, ∃ transfers, Ran network authorization policy session transfers (action session) ∧
    gives transfers (action session).1

namespace Makes

variable {network : Network ν} {authorization : Option String} {policy : RetryPolicy}
  {action : Repository.Action ν α} {next : α → Repository.Action ν β}
  {gives : List Transfer → Except RepositoryError α → Prop}

theorem imp {other : List Transfer → Except RepositoryError α → Prop}
    (h : Makes network authorization policy action gives)
    (himp : ∀ transfers result, gives transfers result → other transfers result) :
    Makes network authorization policy action other := by
  intro session
  obtain ⟨transfers, hran, hgives⟩ := h session
  exact ⟨transfers, hran, himp _ _ hgives⟩

theorem ofExcept {result : Except RepositoryError α} (hresult : result ≠ .error .cancelled) :
    Makes network authorization policy (Repository.ofExcept result)
      fun transfers ended => transfers = [] ∧ ended = result := fun _ =>
  ⟨[], ⟨⟨.nil _, rfl⟩, .nil _, fun hcancelled => absurd hcancelled hresult, fun _ => rfl⟩, rfl, rfl⟩

theorem pure (a : α) : Makes network authorization policy (Pure.pure a)
    fun transfers ended => transfers = [] ∧ ended = .ok a := by
  have hresult : (.ok a : Except RepositoryError α) ≠ .error .cancelled := nofun
  exact ofExcept hresult

/-- Where the first operation fails there is no second one, and else its transfers follow. -/
theorem bind {whole : List Transfer → Except RepositoryError β → Prop}
    (h : Makes network authorization policy action gives)
    (givesNext : α → List Transfer → Except RepositoryError β → Prop)
    (hnext : ∀ a, Makes network authorization policy (next a) (givesNext a))
    (herror : ∀ transfers error, gives transfers (.error error) → whole transfers (.error error))
    (hok : ∀ first second a result, gives first (.ok a) → givesNext a second result →
      whole (first ++ second) result) :
    Makes network authorization policy (action >>= next) whole := by
  intro session
  obtain ⟨first, hran, hgives⟩ := h session
  rw [run_bind]
  generalize action session = ended at hran hgives
  obtain ⟨outcome, later⟩ := ended
  cases outcome with
  | error error =>
    have hcancelled (h : (.error error : Except RepositoryError β) = .error .cancelled) :=
      hran.cancelled_only (congrArg _ (Except.error.inj h))
    exact ⟨first, ⟨hran.carried, hran.refusal_reported.error, hcancelled, hran.measured⟩,
      herror _ _ hgives⟩
  | ok a =>
    obtain ⟨second, hafter, hgivesNext⟩ := hnext a later
    exact ⟨first ++ second,
      { carried := hran.carried.append hafter.carried
        refusal_reported := hran.refusal_reported.append hafter.refusal_reported
        cancelled_only := hafter.cancelled_only
        measured := fun hmeasurable =>
          (hafter.measured hmeasurable).trans (hran.measured hmeasurable) },
      hok _ _ _ _ hgives hgivesNext⟩

theorem ite {condition : Prop} [Decidable condition] {other : Repository.Action ν α}
    (h : condition → Makes network authorization policy action gives)
    (hother : ¬ condition → Makes network authorization policy other gives) :
    Makes network authorization policy (if condition then action else other) gives := by
  split
  · next hyes => exact h hyes
  · next hno => exact hother hno

end Makes

/-- What a call comes to by its transfers: unless it is cancelled, what the last one means. -/
structure Decides (call : Engine.Call) (transfers : List Transfer)
    (result : Except RepositoryError call.Answer) : Prop where
  same : ∀ transfer ∈ transfers, transfer.call = call
  last : result ≠ .error .cancelled → ∃ earlier outcome,
    transfers = earlier ++ [⟨call, outcome⟩] ∧ result = (meaning call outcome).mapError .engine

theorem Decides.refusal_reported {call : Engine.Call} {transfers : List Transfer}
    {result : Except RepositoryError call.Answer} (h : Decides call transfers result) :
    ReportsRefusal transfers result := by
  intro earlier other response hlast hrefusal hresult
  obtain ⟨before, outcome, rfl, rfl⟩ := h.last hresult
  obtain ⟨-, hsame⟩ := List.append_inj' hlast rfl
  obtain ⟨rfl, rfl⟩ := Transfer.mk.inj (List.singleton_inj.mp hsame)
  rw [meaning, read_of_refused hrefusal.failed hrefusal.notBulk hrefusal.notAbsence]
  rfl

def EndsWith (call : Engine.Call) (kind : Response → Prop) (transfers : List Transfer) : Prop :=
  ∃ earlier response, transfers = earlier ++ [⟨call, .ok response⟩] ∧ kind response

theorem EndsWith.imp {call : Engine.Call} {kind other : Response → Prop}
    {transfers : List Transfer} (h : EndsWith call kind transfers)
    (himp : ∀ response, kind response → other response) : EndsWith call other transfers := by
  obtain ⟨earlier, response, hlast, hkind⟩ := h
  exact ⟨earlier, response, hlast, himp response hkind⟩

/-- A call is answered by the last response. -/
theorem Decides.endsWith {call : Engine.Call} {transfers : List Transfer} {answer : call.Answer}
    (h : Decides call transfers (.ok answer)) :
    EndsWith call (fun response => read call response = .ok answer) transfers := by
  obtain ⟨earlier, outcome, hlast, hanswer⟩ := h.last nofun
  have hmeaning := Except.mapError_eq_ok_iff.mp hanswer.symm
  cases outcome with
  | ok response => exact ⟨earlier, response, hlast, hmeaning⟩
  | error reason => exact nomatch hmeaning

/-- A call that ends with a response is what this response is read as, unless it is cancelled. -/
theorem Decides.exists_read {call : Engine.Call} {kind : Response → Prop}
    {transfers : List Transfer} {result : Except RepositoryError call.Answer}
    (h : Decides call transfers result) (hresult : result ≠ .error .cancelled)
    (hlast : EndsWith call kind transfers) :
    ∃ response, kind response ∧ result = (read call response).mapError .engine := by
  obtain ⟨earlier, response, rfl, hkind⟩ := hlast
  obtain ⟨before, outcome, hsame, rfl⟩ := h.last hresult
  obtain ⟨-, hsame⟩ := List.append_inj' hsame rfl
  obtain ⟨-, rfl⟩ := Transfer.mk.inj (List.singleton_inj.mp hsame)
  exact ⟨response, hkind, rfl⟩

/-- A call that is not cancelled has an answer exactly if the last response is read as it. -/
theorem Decides.eq_ok_iff {call : Engine.Call} {answer : call.Answer} {kind : Response → Prop}
    {transfers : List Transfer} {result : Except RepositoryError call.Answer}
    (h : Decides call transfers result) (hresult : result ≠ .error .cancelled)
    (hread : ∀ response, read call response = .ok answer ↔ kind response) :
    result = .ok answer ↔ EndsWith call kind transfers := by
  constructor
  · rintro rfl
    exact h.endsWith.imp fun response => (hread response).mp
  · intro hlast
    obtain ⟨response, hkind, rfl⟩ := h.exists_read hresult hlast
    rw [(hread response).mpr hkind]
    rfl

/-- The transfers of a call are all for this call, and the last one decides it. -/
theorem makes_call {client : Client} {network : Network ν} {repo : Repository ν}
    (hengine : repo.engine = client.engine network) (call : Engine.Call) :
    Makes network client.authorization repo.retry (repo.call call) (Decides call) := by
  intro session
  obtain ⟨answers, hrun⟩ := repo.exists_callRun call session
  have hexchanged := hrun.exchanged
  rw [hengine] at hexchanged
  obtain ⟨outcomes, hrepeats, rfl⟩ := Client.exists_repeats hexchanged.states
  have hdecides : Decides call (outcomes.map (⟨call, ·⟩)) (repo.call call session).1 := by
    refine ⟨?_, fun hresult => ?_⟩
    · exact List.forall_mem_map.mpr fun _ _ => rfl
    · obtain ⟨last, ⟨⟨earlier, hanswers, -⟩, -⟩, hlast⟩ := hrun.exists_tried hresult
      obtain ⟨before, final, rfl, -, hfinal⟩ := List.map_eq_append_iff.mp hanswers
      obtain ⟨outcome, rfl, rfl⟩ := List.map_eq_singleton_iff.mp hfinal
      exact ⟨before.map (⟨call, ·⟩), outcome, List.map_append, hlast⟩
  refine ⟨_, ⟨⟨hrepeats.carries, ?_⟩, hdecides.refusal_reported,
    repo.isCancelled_of_call_eq call session, fun hmeasurable =>
      Repository.keepsMeasured_call hmeasurable call session⟩, hdecides⟩
  rw [hexchanged.calls, List.map_map, List.map_map, List.map_map]
  rfl

end Http

end SearchStore
