import SearchStore.Proofs.Http.Transfers
import SearchStore.Proofs.Repository.Creation

/-!
What is found absent over a network. An operation takes something for absent only if the last
response says so: with the status for it, or with success and a document that denies it. A
request that gets lost or is refused, or a response that cannot be read, is an error at every
attempt. So nothing is left alone or created because the engine fails.
-/

namespace SearchStore

namespace Http

variable {ν α β : Type}

namespace Response

variable {response : Response}

/-- A response that denies what was asked for: with the status for it, or with success and a
document of a kind. -/
def Denies (kind : Json → Prop) (response : Response) : Prop :=
  response.status = 404 ∨ isSuccessStatus response.status = true ∧
    ∃ document, Json.read? response.body = some document ∧ kind document

theorem presence_eq_ok_false_iff : response.presence = .ok false ↔ response.status = 404 := by
  constructor
  · intro h
    rw [presence] at h
    split at h
    · next habsent => exact habsent
    · obtain ⟨_, -, hpresent⟩ := Except.map_eq_ok_iff.mp h
      cases hpresent
  · intro habsent
    rw [presence, if_pos habsent]

/-- A document is read only off a success. -/
theorem document_eq_ok_iff {document : Json} : response.document = .ok document ↔
    isSuccessStatus response.status = true ∧ Json.read? response.body = some document := by
  cases hsuccess : isSuccessStatus response.status with
  | false =>
    rw [document_of_refused hsuccess]
    exact iff_of_false (by simp) (by simp)
  | true =>
    have hensured : response.ensureSuccess = .ok () := by rw [ensureSuccess, if_pos hsuccess]
    rw [Response.document, hensured]
    cases hread : Json.read? response.body with
    | none =>
      constructor
      · intro h
        cases h
      · intro h
        cases h.2
    | some found =>
      constructor
      · exact fun h => ⟨rfl, congrArg some (Except.ok.inj h)⟩
      · exact fun h => congrArg Except.ok (Option.some.inj h.2)

theorem denies_of_document {document : Json} {kind : Json → Prop}
    (h : response.document = .ok document) (hkind : kind document) : response.Denies kind := by
  obtain ⟨hsuccess, hread⟩ := document_eq_ok_iff.mp h
  exact .inr ⟨hsuccess, document, hread, hkind⟩

end Response

section Reading

variable {response : Response} {document : DocumentRef} {kind : Json → Prop}

/-- What is read off the response to a request for a document tells whether it denies it. -/
theorem denies_iff_of_read_getDocument {found : Option Json}
    (h : read (.getDocument document) response = .ok found) :
    response.Denies kind ↔ ∀ hit, found = some hit → kind hit := by
  rw [read] at h
  split at h
  · next habsent =>
    obtain rfl := Except.ok.inj h
    exact iff_of_true (.inl habsent) fun hit hhit => absurd hhit (Option.some_ne_none hit).symm
  · next hpresent =>
    obtain ⟨hit, hdocument, rfl⟩ := Except.map_eq_ok_iff.mp h
    constructor
    · rintro (habsent | ⟨-, other, hother, hkind⟩) _ hhit
      · exact absurd habsent hpresent
      · rw [(Response.document_eq_ok_iff.mp hdocument).2] at hother
        rwa [← Option.some.inj hhit, Option.some.inj hother]
    · exact fun hkind => Response.denies_of_document hdocument (hkind hit rfl)

theorem exists_read_of_denies (h : response.Denies kind) :
    ∃ found, read (.getDocument document) response = .ok found := by
  rw [read]
  split
  · exact ⟨none, rfl⟩
  · next hpresent =>
    obtain ⟨hsuccess, hit, hread, -⟩ := h.resolve_left hpresent
    rw [Response.document_eq_ok_iff.mpr ⟨hsuccess, hread⟩]
    exact ⟨some hit, rfl⟩

theorem denies_of_read_getLifecycle {policy : String}
    (h : read (.getLifecycle policy) response = .ok none) :
    response.Denies fun document => document.get? policy = none := by
  rw [read] at h
  split at h
  · next habsent => exact .inl habsent
  · obtain ⟨document, hdocument, hnone⟩ := Except.map_eq_ok_iff.mp h
    exact Response.denies_of_document hdocument hnone

end Reading

/-- The call by which is asked whether what a call creates is there already, and the responses
that deny it. -/
def check? : Engine.Call → Option (Engine.Call × (Response → Prop))
  | .createIndex name _ => some (.indexExists name, fun response => response.status = 404)
  | .putLifecycle policy _ =>
    some (.getLifecycle policy, Response.Denies fun document => document.get? policy = none)
  | _ => none

/-- What has been transferred before a call: if it creates something, this has been denied,
and since then nothing but the same call has been made. -/
def MayFollow (before : List Transfer) (call : Engine.Call) : Prop :=
  ∀ check kind, check? call = some (check, kind) → ∃ checked sent, before = checked ++ sent ∧
    EndsWith check kind checked ∧ ∀ transfer ∈ sent, transfer.call = call

/-- Nothing is created that has not been denied. -/
def Guarded (transfers : List Transfer) : Prop :=
  ∀ before transfer after, transfers = before ++ transfer :: after → MayFollow before transfer.call

theorem MayFollow.append_left {before : List Transfer} {call : Engine.Call}
    (h : MayFollow before call) (earlier : List Transfer) : MayFollow (earlier ++ before) call := by
  intro check kind hcheck
  obtain ⟨_, sent, rfl, ⟨rest, response, rfl, hkind⟩, hsent⟩ := h check kind hcheck
  exact ⟨_, sent, (List.append_assoc _ _ _).symm,
    ⟨earlier ++ rest, response, (List.append_assoc _ _ _).symm, hkind⟩, hsent⟩

namespace Guarded

variable {first second : List Transfer}

theorem nil : Guarded [] := fun _ _ _ h =>
  absurd h.symm (List.append_ne_nil_of_right_ne_nil _ (List.cons_ne_nil _ _))

/-- A part is guarded if what comes before it lets each of its calls follow. -/
theorem append_of_mayFollow (hfirst : Guarded first)
    (hsecond : ∀ before transfer after, second = before ++ transfer :: after →
      MayFollow (first ++ before) transfer.call) : Guarded (first ++ second) := by
  intro before transfer after h
  rcases List.append_eq_append_iff.mp h with ⟨middle, rfl, hrest⟩ | ⟨middle, hmiddle, hrest⟩
  · exact hsecond middle transfer after hrest
  · cases middle with
    | nil =>
      rw [List.append_nil] at hmiddle
      rw [← hmiddle, ← List.append_nil first]
      exact hsecond [] transfer after hrest.symm
    | cons head tail =>
      obtain ⟨rfl, -⟩ := List.cons.inj hrest
      exact hfirst before transfer tail hmiddle

theorem append (hfirst : Guarded first) (hsecond : Guarded second) : Guarded (first ++ second) :=
  hfirst.append_of_mayFollow fun before transfer after h =>
    (hsecond before transfer after h).append_left first

/-- Calls that create nothing need no leave. -/
theorem of_check?_eq_none (h : ∀ transfer ∈ first, check? transfer.call = none) :
    Guarded first := by
  rintro before transfer after rfl check kind hcheck
  have hnone := h transfer (List.mem_append_right _ List.mem_cons_self)
  exact nomatch hnone.symm.trans hcheck

/-- What has been denied last may be created, at as many attempts as it takes. -/
theorem append_of_endsWith {call check : Engine.Call} {kind : Response → Prop}
    (hcheck : check? call = some (check, kind)) (hfirst : Guarded first)
    (hdenied : EndsWith check kind first) (hsecond : ∀ transfer ∈ second, transfer.call = call) :
    Guarded (first ++ second) := by
  refine hfirst.append_of_mayFollow ?_
  rintro before transfer after rfl check' kind' hcheck'
  have hcall := hsecond transfer (List.mem_append_right _ List.mem_cons_self)
  rw [hcall] at hcheck' ⊢
  obtain ⟨rfl, rfl⟩ := Prod.mk.inj (Option.some.inj (hcheck.symm.trans hcheck'))
  exact ⟨first, before, rfl, hdenied, fun sent hsent =>
    hsecond sent (List.mem_append_left _ hsent)⟩

end Guarded

theorem Decides.guarded {call : Engine.Call} {transfers : List Transfer}
    {result : Except RepositoryError call.Answer} (h : Decides call transfers result)
    (hcheck : check? call = none) : Guarded transfers :=
  .of_check?_eq_none fun transfer htransfer => (h.same transfer htransfer) ▸ hcheck

theorem decodeDocument_ne_cancelled (decode : Json → Except String α) (json : Json) :
    decodeDocument decode json ≠ .error .cancelled := by
  rw [decodeDocument]
  cases decode json <;> exact nofun

section Operations

variable {client : Client} {network : Network ν} {repo : Repository ν}
  (hengine : repo.engine = client.engine network)
include hengine

/-- A document is missing by the status, or by what the last response says. -/
theorem makes_get {δ : Type} [Document δ] (id : String) :
    Makes network client.authorization repo.retry (repo.get id : Repository.Action ν (Option δ))
      fun transfers result => result ≠ .error .cancelled → (result = .ok none ↔
        EndsWith (.getDocument (repo.ref id))
          (Response.Denies fun hit => (hit.get? "found").bind Json.asBool? = some false)
          transfers) := by
  refine (makes_call hengine (.getDocument (repo.ref id))).bind
    (fun found transfers result => transfers = [] ∧ (result = .ok none ↔
      ∀ hit, found = some hit → (hit.get? "found").bind Json.asBool? = some false))
    (fun found => ?_) ?_ ?_
  · cases found with
    | none => exact (Makes.pure none).imp fun _ _ h => ⟨h.1, iff_of_true h.2 nofun⟩
    | some hit =>
      refine .ite (fun hmissing => ?_) fun hthere => ?_
      · refine (Makes.pure none).imp fun _ _ h => ⟨h.1, iff_of_true h.2 ?_⟩
        rintro _ ⟨⟩
        exact hmissing
      · have hnever : ¬ ∀ other, some hit = some other →
            (other.get? "found").bind Json.asBool? = some false :=
          fun hmissing => hthere (hmissing hit rfl)
        refine (Makes.ofExcept (decodeDocument_ne_cancelled _ _)).bind _
          (fun document => Makes.pure (some document))
          (fun _ _ h => ⟨h.1, iff_of_false nofun hnever⟩) ?_
        rintro first second document result ⟨rfl, -⟩ ⟨rfl, rfl⟩
        exact ⟨rfl, iff_of_false nofun hnever⟩
  · intro transfers error hdecides hresult
    refine iff_of_false nofun fun hlast => ?_
    have hended : (.error error : Except RepositoryError (Option Json)) ≠ .error .cancelled :=
      fun hcancelled => hresult (congrArg _ (Except.error.inj hcancelled))
    obtain ⟨response, hdenies, herror⟩ := hdecides.exists_read hended hlast
    obtain ⟨found, hfound⟩ := exists_read_of_denies hdenies
    rw [hfound] at herror
    cases herror
  · rintro first _ found result hdecides ⟨rfl, hmissing⟩ -
    rw [List.append_nil, hmissing]
    constructor
    · exact fun hkind => hdecides.endsWith.imp fun _ hread =>
        (denies_iff_of_read_getDocument hread).mpr hkind
    · intro hlast
      obtain ⟨response, hdenies, hanswer⟩ := hdecides.exists_read nofun hlast
      exact (denies_iff_of_read_getDocument (Except.mapError_eq_ok_iff.mp hanswer.symm)).mp hdenies

/-- A deletion that is not asked for leaves alone what has been found missing. -/
theorem makes_delete (id : String) :
    Makes network client.authorization repo.retry (repo.delete id) fun transfers result =>
      result = .ok () → (∀ transfer ∈ transfers, transfer.call ≠ .deleteDocument (repo.ref id)) →
        EndsWith (.documentExists (repo.ref id)) (fun response => response.status = 404)
          transfers := by
  refine (makes_call hengine (.documentExists (repo.ref id))).bind
    (fun found transfers result => result = .ok () →
      (∀ transfer ∈ transfers, transfer.call ≠ .deleteDocument (repo.ref id)) →
        transfers = [] ∧ found = false)
    (fun found => ?_) (fun _ _ _ => nofun) ?_
  · cases found with
    | false => exact (Makes.pure ()).imp fun _ _ h _ _ => ⟨h.1, rfl⟩
    | true =>
      refine (makes_call hengine (.deleteDocument (repo.ref id))).imp ?_
      rintro transfers result hdecides rfl hnone
      obtain ⟨earlier, response, rfl, -⟩ := hdecides.endsWith
      exact absurd rfl (hnone _ (List.mem_append_right _ List.mem_cons_self))
  · intro first second found result hdecides hdeletes hresult hnone
    obtain ⟨rfl, rfl⟩ := hdeletes hresult fun transfer htransfer =>
      hnone transfer (List.mem_append_right _ htransfer)
    rw [List.append_nil]
    exact hdecides.endsWith.imp fun _ => Response.presence_eq_ok_false_iff.mp

/-- An index is created only if it has been found missing. -/
theorem makes_createUnlessExists (name : String) (body : Json) :
    Makes network client.authorization repo.retry (repo.createUnlessExists name body)
      fun transfers _ => Guarded transfers := by
  refine (makes_call hengine (.indexExists name)).bind
    (fun found transfers _ => (∀ transfer ∈ transfers, transfer.call = .createIndex name body) ∧
      (found = true → transfers = []))
    (fun found => ?_) (fun _ _ h => h.guarded rfl) ?_
  · cases found with
    | true =>
      refine (Makes.pure false).imp ?_
      rintro _ _ ⟨rfl, -⟩
      exact ⟨nofun, fun _ => rfl⟩
    | false =>
      refine (makes_call hengine (.createIndex name body)).bind _ (fun _ => Makes.pure true)
        (fun _ _ hdecides => ⟨hdecides.same, nofun⟩) ?_
      rintro first _ _ _ hdecides ⟨rfl, -⟩
      rw [List.append_nil]
      exact ⟨hdecides.same, nofun⟩
  · rintro first second found result hdecides ⟨hcreates, hfound⟩
    cases found with
    | true =>
      rw [hfound rfl, List.append_nil]
      exact hdecides.guarded rfl
    | false =>
      have hdenied := hdecides.endsWith.imp fun _ => Response.presence_eq_ok_false_iff.mp
      exact (hdecides.guarded rfl).append_of_endsWith rfl hdenied hcreates

/-- A lifecycle policy is put only if there has been found to be none. -/
theorem makes_prepareRollover :
    Makes network client.authorization repo.retry repo.prepareRollover
      fun transfers _ => Guarded transfers := by
  have htemplate : Makes network client.authorization repo.retry
      (repo.call (.putIndexTemplate repo.options.pattern repo.templateBody))
      fun transfers _ => Guarded transfers :=
    (makes_call hengine _).imp fun _ _ h => h.guarded rfl
  refine (makes_call hengine (.getLifecycle repo.lifecyclePolicy)).bind
    (fun found transfers _ => ∃ puts others, transfers = puts ++ others ∧ Guarded others ∧
      (∀ transfer ∈ puts,
        transfer.call = .putLifecycle repo.lifecyclePolicy repo.lifecycleBody) ∧
      (found ≠ none → puts = []))
    (fun found => ?_) (fun _ _ h => h.guarded rfl) ?_
  · cases found with
    | none =>
      refine (makes_call hengine (.putLifecycle repo.lifecyclePolicy repo.lifecycleBody)).bind _
        (fun _ => htemplate) (fun puts _ h => ?_) fun puts others _ _ h hothers => ?_
      · exact ⟨puts, [], (List.append_nil _).symm, .nil, h.same, fun hnone => absurd rfl hnone⟩
      · exact ⟨puts, others, rfl, hothers, h.same, fun hnone => absurd rfl hnone⟩
    | some lifecycle =>
      exact htemplate.imp fun others _ hothers => ⟨[], others, rfl, hothers, nofun, fun _ => rfl⟩
  · rintro first _ found result hdecides ⟨puts, others, rfl, hothers, hputs, hfound⟩
    cases found with
    | none =>
      rw [← List.append_assoc]
      have hdenied := hdecides.endsWith.imp fun _ => denies_of_read_getLifecycle
      exact ((hdecides.guarded rfl).append_of_endsWith rfl hdenied hputs).append hothers
    | some lifecycle =>
      rw [hfound nofun, List.nil_append]
      exact (hdecides.guarded rfl).append hothers

/-- Nothing is created that has not been found missing. -/
theorem makes_createIndex :
    Makes network client.authorization repo.retry repo.createIndex
      fun transfers _ => Guarded transfers := by
  have hcreate := makes_createUnlessExists hengine repo.target repo.targetBody
  cases hrollover : repo.options.useRolloverAlias with
  | false =>
    rw [repo.createIndex_of_plain hrollover]
    exact hcreate
  | true =>
    rw [repo.createIndex_of_rollover hrollover]
    refine (makes_call hengine (.indexExists repo.index)).bind
      (fun _ transfers _ => Guarded transfers) (fun known => ?_) (fun _ _ h => h.guarded rfl)
      fun _ _ _ _ hasked hrest => (hasked.guarded rfl).append hrest
    cases known with
    | true => exact hcreate
    | false =>
      exact (makes_prepareRollover hengine).bind _ (fun _ => hcreate) (fun _ _ h => h)
        fun _ _ _ _ hfirst hsecond => hfirst.append hsecond

end Operations

/-- How the operations of a repository tell what is absent. In each case the last response
decides, whatever came of the requests before, and a refusal at the end is reported. -/
structure TellsAbsence (network : Network ν) (authorization : Option String)
    (repo : Repository ν) : Prop where
  call : ∀ call, Makes network authorization repo.retry (repo.call call) (Decides call)
  documentExists : ∀ id, Makes network authorization repo.retry (repo.documentExists id)
    fun transfers result => result ≠ .error .cancelled → (result = .ok false ↔
      EndsWith (.documentExists (repo.ref id)) (fun response => response.status = 404) transfers)
  indexExists : ∀ name, Makes network authorization repo.retry (repo.indexExists name)
    fun transfers result => result ≠ .error .cancelled → (result = .ok false ↔
      EndsWith (.indexExists name) (fun response => response.status = 404) transfers)
  get : ∀ (δ : Type) [Document δ] (id : String), Makes network authorization repo.retry
    (repo.get id : Repository.Action ν (Option δ))
    fun transfers result => result ≠ .error .cancelled → (result = .ok none ↔
      EndsWith (.getDocument (repo.ref id))
        (Response.Denies fun hit => (hit.get? "found").bind Json.asBool? = some false) transfers)
  delete : ∀ id, Makes network authorization repo.retry (repo.delete id)
    fun transfers result => result = .ok () →
      (∀ transfer ∈ transfers, transfer.call ≠ .deleteDocument (repo.ref id)) →
        EndsWith (.documentExists (repo.ref id)) (fun response => response.status = 404) transfers
  createIndex : Makes network authorization repo.retry repo.createIndex
    fun transfers _ => Guarded transfers

/-- A failing engine is never mistaken for absence, whatever a network answers or loses. -/
theorem absence_is_answered (client : Client) (network : Network ν) (repo : Repository ν)
    (hengine : repo.engine = client.engine network) :
    TellsAbsence network client.authorization repo where
  call := makes_call hengine
  documentExists id := (makes_call hengine (.documentExists (repo.ref id))).imp
    fun _ _ hdecides hresult =>
      hdecides.eq_ok_iff hresult fun _ => Response.presence_eq_ok_false_iff
  indexExists name := (makes_call hengine (.indexExists name)).imp
    fun _ _ hdecides hresult =>
      hdecides.eq_ok_iff hresult fun _ => Response.presence_eq_ok_false_iff
  get _ _ id := makes_get hengine id
  delete := makes_delete hengine
  createIndex := makes_createIndex hengine

def foreseen : Network (List (Except String Response)) where
  exchange _ _ outcomes :=
    match outcomes with
    | [] => ({ outcome := .error "connection refused" }, [])
    | outcome :: rest => ({ outcome }, rest)

def foreseenOrders : Repository (List (Except String Response)) where
  options := { index := "orders" }
  schema := ⟨"Order", []⟩
  retry := .ofAttempts 3
  engine := Client.engine ⟨none⟩ foreseen

def foreseeing (outcomes : List (Except String Response)) :
    Session (EngineState (List (Except String Response))) :=
  .start { engine := outcomes } none

/-- An order is missing when the engine says so, after a refusal and a loss. With a refusal at
the last attempt it is not missing. -/
theorem absence_is_answered_foreseen :
    let missing := foreseenOrders.documentExists "1"
      (foreseeing [.ok ⟨503, "unavailable"⟩, .error "connection reset", .ok ⟨404, ""⟩])
    let refused := foreseenOrders.documentExists "1"
      (foreseeing [.error "connection reset", .ok ⟨503, ""⟩, .ok ⟨503, "unavailable"⟩])
    missing.1 = .ok false ∧
      (∃ transfers, transfers.length = 3 ∧
        EndsWith (.documentExists (foreseenOrders.ref "1"))
          (fun response => response.status = 404) transfers) ∧
      refused.1 = .error (.engine (.response 503 "unavailable")) := by
  intro missing refused
  have htells := absence_is_answered ⟨none⟩ foreseen foreseenOrders rfl
  have hmissing : missing.1 = .ok false := by decide +kernel
  have hthree : missing.2.state.calls.length = 3 := by decide +kernel
  obtain ⟨transfers, hran, habsent⟩ := htells.documentExists "1" _
  have hmade : missing.2.state.calls.length = transfers.length + 0 := hran.carried.length_calls
  have hended : missing.1 ≠ .error .cancelled := by
    rw [hmissing]
    exact nofun
  exact ⟨hmissing, ⟨transfers, hmade.symm.trans hthree, (habsent hended).mp hmissing⟩,
    by decide +kernel⟩

def refusing : Network Unit where
  exchange _ _ _ := ({ outcome := .ok ⟨503, "unavailable"⟩ }, ())

theorem outcome_of_refusing {authorization : Option String} {before after : Unit}
    {transfers : List Transfer} (h : refusing.Carries authorization before transfers after) :
    ∀ transfer ∈ transfers, transfer.outcome = .ok ⟨503, "unavailable"⟩ := by
  induction h with
  | nil => exact nofun
  | cons call hrest ih => exact List.forall_mem_cons.mpr ⟨rfl, ih⟩

def refusedOrders (retry : RetryPolicy) : Repository Unit where
  options := { index := "orders" }
  schema := ⟨"Order", []⟩
  retry := retry
  engine := Client.engine ⟨none⟩ refusing

/-- What asks for an order at all ends on a refusal. -/
theorem exists_refused (retry : RetryPolicy) (session : Session (EngineState Unit))
    (hmade : session.state.calls.length <
      ((refusedOrders retry).documentExists "1" session).2.state.calls.length) :
    ∃ transfers, refusing.Carried none session.state transfers
        ((refusedOrders retry).documentExists "1" session).2.state ∧
      EndsWith (.documentExists ⟨"orders", "1", "1"⟩) (· = ⟨503, "unavailable"⟩) transfers := by
  let call : Engine.Call := .documentExists ⟨"orders", "1", "1"⟩
  have hengine : (refusedOrders retry).engine = Client.engine ⟨none⟩ refusing := rfl
  obtain ⟨transfers, hran, hdecides⟩ := makes_call hengine call session
  refine ⟨transfers, hran.carried, ?_⟩
  cases transfers using List.reverseRecOn with
  | nil =>
    have hnone := hran.carried.length_calls
    rw [List.length_nil, Nat.zero_add] at hnone
    exact absurd hnone.symm (Nat.ne_of_lt hmade)
  | append_singleton earlier last =>
    have hcall := hdecides.same last List.mem_concat_self
    have houtcome := outcome_of_refusing hran.carried.states last List.mem_concat_self
    obtain ⟨made, outcome⟩ := last
    obtain rfl : made = call := hcall
    obtain rfl : outcome = .ok ⟨503, "unavailable"⟩ := houtcome
    exact ⟨earlier, _, rfl, rfl⟩

/-- The last attempt of a call is answered with a refusal, but the call does not end with it:
it is cancelled before the next attempt, or the wait for that cannot be measured. -/
theorem not_call_reports_refusal :
    let call : Engine.Call := .documentExists ⟨"orders", "1", "1"⟩
    let response : Response := ⟨503, "unavailable"⟩
    let soon : Session (EngineState Unit) := .start { engine := () } (some 500)
    let cut := (refusedOrders .standard).documentExists "1" soon
    let never : Session (EngineState Unit) := .start { engine := () } none
    let void := (refusedOrders (.ofAttempts 1002 (Nat.pow 2 64 - 1))).documentExists "1" never
    response.IsRefusal call ∧
      ((∃ transfers, refusing.Carried none soon.state transfers cut.2.state ∧
          EndsWith call (· = response) transfers) ∧
        cut.1 = .error .cancelled) ∧
      (∃ transfers, refusing.Carried none never.state transfers void.2.state ∧
          EndsWith call (· = response) transfers) ∧
        void.2.isCancelled = false ∧ void.2.overflowed = true := by
  intro call response soon cut never void
  refine ⟨⟨by decide, rfl, fun _ => by decide⟩, ⟨?_, by decide +kernel⟩, ?_, ?_⟩
  · exact exists_refused .standard soon (by decide +kernel)
  · exact exists_refused _ never (by decide +kernel)
  · decide +kernel

end Http

end SearchStore
