import SearchStore.Http.Client
import SearchStore.Proofs.Repository.BulkDeletion

/-!
The reason for which the engine refuses a request, as it is reported. All calls but one
look for it in the text of the answer, and take the text itself if it gives no error. A bulk
request looks for it in the document that the text is read as, and takes the compact text of
this document, in which a text that is no document stands as a string. The two reasons are
the same exactly if the answer gives an error or is a document in its compact text.
-/

namespace SearchStore

theorem Json.escape_ne_nil (c : Char) : escape c ≠ [] := by
  unfold escape
  split
  all_goals try exact List.cons_ne_nil _ _
  split <;> exact List.cons_ne_nil _ _

/-- A string in quotes is longer than by itself. -/
theorem Json.length_lt_length_quote (s : String) : s.toList.length < (quote s).length := by
  have hescaped : s.toList.length ≤ (s.toList.flatMap escape).length := by
    induction s.toList with
    | nil => exact Nat.le_refl _
    | cons c rest ih =>
      have hc : 0 < (escape c).length := List.length_pos_iff.mpr (escape_ne_nil c)
      rw [List.flatMap_cons, List.length_append, List.length_cons]
      omega
  simp only [quote, List.cons_append, List.length_cons, List.length_append, List.length_nil]
  omega

def GivesError (body : String) : Prop :=
  ∃ document error, Json.read? body = some document ∧ document.get? "error" = some error

/-- The body of an answer is a document without unneeded blanks or escapes. -/
def IsCompactText (body : String) : Prop :=
  ∃ document, Json.read? body = some document ∧ document.compact = body

/-- The reason that a bulk request takes from the body of an answer that refuses it. -/
def bulkReason (body : String) : String :=
  let document := (Json.read? body).getD (.str body)
  ((document.get? "error").map errorReason).getD document.compact

/-- What is no document is given in quotes. -/
theorem bulkReason_of_read_none {body : String} (h : Json.read? body = none) :
    bulkReason body = String.ofList (Json.quote body) := by
  rw [bulkReason, h]
  rfl

theorem bulkReason_of_read_some {body : String} {document : Json}
    (h : Json.read? body = some document) :
    bulkReason body = ((document.get? "error").map errorReason).getD document.compact := by
  rw [bulkReason, h]
  rfl

theorem reasonOfBody_of_read_none {body : String} (h : Json.read? body = none) :
    reasonOfBody body = body := by
  rw [reasonOfBody, h]
  rfl

theorem reasonOfBody_of_read_some {body : String} {document : Json}
    (h : Json.read? body = some document) :
    reasonOfBody body = ((document.get? "error").map errorReason).getD body := by
  rw [reasonOfBody, h, Option.bind_some]
  cases document.get? "error" <;> rfl

/-- The reason of a bulk request is that of the other calls if the answer gives an error, or
is written as it would be written again. -/
theorem bulkReason_eq_reasonOfBody_iff (body : String) :
    bulkReason body = reasonOfBody body ↔ GivesError body ∨ IsCompactText body := by
  cases hread : Json.read? body with
  | none =>
    have hne : String.ofList (Json.quote body) ≠ body := by
      intro hsame
      have hlonger := Json.length_lt_length_quote body
      rw [← congrArg String.toList hsame, String.toList_ofList] at hlonger
      exact Nat.lt_irrefl _ hlonger
    rw [bulkReason_of_read_none hread, reasonOfBody_of_read_none hread]
    refine ⟨fun hsame => absurd hsame hne, ?_⟩
    rintro (⟨document, error, hdocument, -⟩ | ⟨document, hdocument, -⟩)
    · exact nomatch hread.symm.trans hdocument
    · exact nomatch hread.symm.trans hdocument
  | some document =>
    rw [bulkReason_of_read_some hread, reasonOfBody_of_read_some hread]
    cases herror : document.get? "error" with
    | some error => exact iff_of_true rfl (.inl ⟨document, error, hread, herror⟩)
    | none =>
      constructor
      · exact fun hsame => .inr ⟨document, hread, hsame⟩
      · rintro (⟨found, error, hfound, hgiven⟩ | ⟨found, hfound, hcompact⟩)
        · obtain rfl := Option.some.inj (hread.symm.trans hfound)
          exact nomatch herror.symm.trans hgiven
        · obtain rfl := Option.some.inj (hread.symm.trans hfound)
          exact hcompact

/-- A request that may be refused in part. -/
def Engine.Call.isBulk : Call → Bool
  | .bulk .. => true
  | _ => false

def Engine.Call.allowsAbsence : Call → Bool
  | .documentExists _ | .getDocument _ | .indexExists _ | .getAlias _ | .getLifecycle _ => true
  | _ => false

namespace Http

namespace Response

variable {response : Response}

theorem ensureSuccess_of_refused (h : isSuccessStatus response.status = false) :
    response.ensureSuccess = .error (responseError response.status response.body) := by
  rw [ensureSuccess, h]
  rfl

theorem document_of_refused (h : isSuccessStatus response.status = false) :
    response.document = .error (responseError response.status response.body) := by
  rw [document, ensureSuccess_of_refused h]
  rfl

theorem presence_of_refused (h : isSuccessStatus response.status = false)
    (hpresent : response.status ≠ 404) :
    response.presence = .error (responseError response.status response.body) := by
  rw [presence, if_neg hpresent, ensureSuccess_of_refused h]
  rfl

end Response

variable {response : Response}

/-- All calls but bulk requests report a refusal with the reason of its body. -/
theorem read_of_refused (h : isSuccessStatus response.status = false) {call : Engine.Call}
    (hbulk : call.isBulk = false) (hpresent : call.allowsAbsence = true → response.status ≠ 404) :
    read call response = .error (responseError response.status response.body) := by
  cases call with
  | bulk index actions => cases hbulk
  | documentExists document => exact Response.presence_of_refused h (hpresent rfl)
  | indexExists index => exact Response.presence_of_refused h (hpresent rfl)
  | getDocument document =>
    rw [read, if_neg (hpresent rfl), Response.document_of_refused h]
    rfl
  | getAlias name =>
    rw [read, if_neg (hpresent rfl), Response.document_of_refused h]
    rfl
  | getLifecycle policy =>
    rw [read, if_neg (hpresent rfl), Response.document_of_refused h]
    rfl
  | count index body =>
    rw [read, Response.document_of_refused h]
    rfl
  | search index body => exact Response.document_of_refused h
  | indexStats index => exact Response.document_of_refused h
  | clusterHealth index => exact Response.document_of_refused h
  | _ => exact Response.ensureSuccess_of_refused h

/-- What a bulk request makes of a response. -/
theorem read_bulk (index : String) (actions : List BulkAction) (response : Response) :
    read (.bulk index actions) response =
      .ok (BulkResponse.ofJson response.status
        ((Json.read? response.body).getD (.str response.body))) :=
  rfl

theorem reason_ofJson_of_refused (h : isSuccessStatus response.status = false) :
    (BulkResponse.ofJson response.status
      ((Json.read? response.body).getD (.str response.body))).reason =
        some (bulkReason response.body) := by
  rw [BulkResponse.ofJson, h]
  rfl

/-- A deletion in bulk that is refused ends with the reason of its request. -/
theorem deletionResult_ofJson_of_refused (h : isSuccessStatus response.status = false) :
    Repository.deletionResult (BulkResponse.ofJson response.status
      ((Json.read? response.body).getD (.str response.body))) =
        .error (.engine (.response response.status (bulkReason response.body))) := by
  rw [Repository.deletionResult, reason_ofJson_of_refused h]
  exact if_pos h

def meaning (call : Engine.Call) : Except String Response → Except EngineError call.Answer
  | .ok response => read call response
  | .error reason => .error (.transport reason)

variable {ν : Type}

inductive Network.Repeats (network : Network ν) (authorization : Option String)
    (request : Request) : ν → List (Except String Response) → ν → Prop
  | none (state : ν) : Repeats network authorization request state [] state
  | once {state final : ν} {rest : List (Except String Response)}
      (hrest : Repeats network authorization request
        (network.exchange authorization request state).2 rest final) :
      Repeats network authorization request state
        ((network.exchange authorization request state).1.outcome :: rest) final

/-- A call that is made again and again makes its request again and again. -/
theorem Client.exists_repeats {client : Client} {network : Network ν} {call : Engine.Call}
    {before after : ν} {answers : List (Except EngineError call.Answer)}
    (h : (client.engine network).Exchanges before (answers.map (⟨call, ·⟩)) after) :
    ∃ outcomes, network.Repeats client.authorization (request call) before outcomes after ∧
      answers = outcomes.map (meaning call) := by
  induction answers generalizing before with
  | nil =>
    cases h
    exact ⟨[], .none _, rfl⟩
  | cons answer rest ih =>
    rw [List.map_cons] at h
    generalize hexchange : (⟨call, answer⟩ : Exchange) = exchange at h
    cases h with
    | cons made hrest =>
      cases hexchange
      obtain ⟨outcomes, hrepeats, rfl⟩ := ih hrest
      refine ⟨_ :: outcomes, .once hrepeats, ?_⟩
      rw [List.map_cons]
      congr 1

structure Response.Refuses (response : Response) : Prop where
  bulk : ∀ index actions, ∃ answer, read (.bulk index actions) response = .ok answer ∧
    answer.status = response.status ∧ answer.reason = some (bulkReason response.body)
  other : ∀ call : Engine.Call, call.isBulk = false →
    (call.allowsAbsence = true → response.status ≠ 404) →
      read call response = .error (.response response.status (reasonOfBody response.body))
  alike_iff : bulkReason response.body = reasonOfBody response.body ↔
    GivesError response.body ∨ IsCompactText response.body

/-- How bulk requests and the other calls report a refusal, and that a deletion in bulk over
any network ends with the reason of the bulk request, however many attempts get lost before. -/
theorem refusals_reported (response : Response)
    (hrefused : isSuccessStatus response.status = false) :
    response.Refuses ∧
    ∀ (ν : Type) (client : Client) (network : Network ν) (repo : Repository ν) (ids : List String)
      (session : Session (EngineState ν)), repo.engine = client.engine network → ids ≠ [] →
      ∃ outcomes, network.Repeats client.authorization
          (request (.bulk repo.index (ids.map .delete))) session.state.engine outcomes
          (repo.bulkDelete ids session).2.state.engine ∧
        (.ok response ∈ outcomes → (repo.bulkDelete ids session).1 ≠ .error .cancelled →
          (repo.bulkDelete ids session).1 =
            .error (.engine (.response response.status (bulkReason response.body)))) := by
  refine ⟨{
    bulk := fun index actions =>
      ⟨_, read_bulk index actions response, rfl, reason_ofJson_of_refused hrefused⟩
    other := fun call hbulk hpresent => read_of_refused hrefused hbulk hpresent
    alike_iff := bulkReason_eq_reasonOfBody_iff response.body }, ?_⟩
  intro ν client network repo ids session hengine hne
  obtain ⟨answers, hrun⟩ := repo.exists_callRun (.bulk repo.index (ids.map .delete)) session
  have hstates := hrun.exchanged.states
  rw [hengine] at hstates
  obtain ⟨outcomes, hrepeats, hanswers⟩ := Client.exists_repeats hstates
  rw [repo.bulkDelete_run hne]
  refine ⟨outcomes, hrepeats, fun hmem hresult => ?_⟩
  have hended : (repo.call (.bulk repo.index (ids.map .delete)) session).1 ≠
      .error .cancelled := by
    intro hcancelled
    rw [hcancelled] at hresult
    exact hresult rfl
  have hanswer := (hrun.ok_mem_iff hended).mp (hanswers ▸ List.mem_map_of_mem hmem)
  rw [hanswer]
  exact deletionResult_ofJson_of_refused hrefused

/-- A network on which the first request gets lost and a gateway answers the next ones. -/
def gateway : Network Nat where
  exchange _ _ sent :=
    if sent = 0 then ({ outcome := .error "connection reset" }, 1)
    else ({ outcome := .ok ⟨503, "gateway timeout"⟩ }, sent + 1)

def behindGateway : Repository Nat where
  options := { index := "orders" }
  schema := ⟨"Order", []⟩
  retry := .standard
  engine := Client.engine ⟨none⟩ gateway

/-- The gateway's words are reported by a count as they are, by a deletion in bulk in quotes. -/
theorem refusals_reported_gateway :
    let response : Response := ⟨503, "gateway timeout"⟩
    let session : Session (EngineState Nat) := .start { engine := 0 } none
    isSuccessStatus response.status = false ∧
      ¬(GivesError response.body ∨ IsCompactText response.body) ∧
      read (.count "orders" (.obj [])) response = .error (.response 503 "gateway timeout") ∧
      (behindGateway.bulkDelete ["1"] session).1 =
        .error (.engine (.response 503 "\"gateway timeout\"")) := by
  intro response session
  obtain ⟨hrefuses, hdeletes⟩ := refusals_reported response (by decide)
  obtain ⟨outcomes, hrepeats, hdeleted⟩ :=
    hdeletes Nat ⟨none⟩ gateway behindGateway ["1"] session rfl (List.cons_ne_nil _ _)
  -- Two requests have been made, and the second one was answered.
  have hmem : .ok response ∈ outcomes := by
    have htwice : (behindGateway.bulkDelete ["1"] session).2.state.engine = 2 := by
      decide +kernel
    rw [htwice] at hrepeats
    cases hrepeats with
    | once hrest =>
      cases hrest with
      | once => exact List.mem_cons_of_mem _ List.mem_cons_self
  have hwords : reasonOfBody response.body = "gateway timeout" := by decide +kernel
  have hquoted : bulkReason response.body = "\"gateway timeout\"" := by decide +kernel
  have hcount := hrefuses.other (.count "orders" (.obj [])) rfl Bool.noConfusion
  have hdelete := hdeleted hmem (by decide +kernel)
  rw [hwords] at hcount
  rw [hquoted] at hdelete
  refine ⟨by decide, fun h => ?_, hcount, hdelete⟩
  have hsame := hrefuses.alike_iff.mpr h
  rw [hwords, hquoted] at hsame
  exact absurd hsame (by decide)

end Http

end SearchStore
