import SearchStore.Proofs.Bulk.Resending
import SearchStore.Proofs.Repository.Cancellation
import SearchStore.Proofs.Retry.Course

/-!
Which failures are tried again when only passing ones are to be. Of a call, a refusal
with status 429 or from 500 on is one of these. Of a chunk, a refusal as a whole is none,
whatever its status: the error it becomes does not keep the status.
-/

namespace SearchStore

variable {σ τ ε α : Type}

def Engine.exchangeIn (engine : Engine σ) (view : τ → EngineState σ) (callOf : τ → Engine.Call)
    (state : τ) : Exchange :=
  ⟨callOf state, engine.answer (callOf state) (view state).engine⟩

section Exchanges

variable {engine : Engine σ} {view : τ → EngineState σ} {callOf : τ → Engine.Call}
  {operation : Operation τ ε α} (hmakes : engine.Makes view callOf operation)
include hmakes

theorem Engine.Makes.exchanged_finish (n : Nat) (point : Standpoint τ) :
    (view point.state).Exchanged engine [engine.exchangeIn view callOf point.state]
      (view (operation.finish n point).state) := by
  rw [Operation.finish, hmakes.state_eq]
  exact .attempt _ _ _

/-- What passes in the attempts before one of them. -/
theorem Engine.Makes.exchanged_startAfter (wait : Nat → Nat) (first : Standpoint τ)
    (failed : Nat) :
    (view first.state).Exchanged engine
      ((List.range failed).map fun k =>
        engine.exchangeIn view callOf (operation.startAfter wait first k).state)
      (view (operation.startAfter wait first failed).state) := by
  induction failed with
  | zero => exact .refl _
  | succ failed ih =>
    rw [List.range_succ, List.map_append]
    exact ih.append (hmakes.exchanged_finish (failed + 1) _)

/-- What passes on the course of an operation. -/
theorem RetryPolicy.Course.exchanged {policy : RetryPolicy} {retry : ε → Bool} {wait : Nat → Nat}
    {session final : Session τ} {failed : Nat} {result : Except (RetryFailure ε) α}
    (h : policy.Course retry operation wait session failed result final) :
    (view session.state).Exchanged engine
      ((List.range (failed + 1)).map fun k =>
        engine.exchangeIn view callOf (operation.startAfter wait session.standpoint k).state)
      (view final.state) := by
  rw [h.final_eq, List.range_succ, List.map_append]
  exact (hmakes.exchanged_startAfter wait session.standpoint failed).append
    (hmakes.exchanged_finish (failed + 1) _)

end Exchanges

/-- The request was refused as a whole with a status, but not for good. -/
def BulkRequest.IsRefused (request : BulkRequest) (status : Nat) : Prop :=
  ∃ response, request.2 = .ok response ∧ response.status = status ∧
    status ≠ 200 ∧ status ≠ 400 ∧ status ≠ 413

namespace Repository

variable (repo : Repository σ)

theorem chunkResult_of_isRefused (chunk : Nat) {request : BulkRequest} {status : Nat}
    (h : request.IsRefused status) :
    ∃ reason, chunkResult chunk request.1 request.2 =
      .error (.bulk (.chunkFailed chunk (request.1.map (·.id)) reason)) := by
  obtain ⟨response, hanswer, rfl, hfound, hbad, hlarge⟩ := h
  simp [hanswer, chunkResult, chunkOutcome, isFinalRefusal, hfound, hbad, hlarge]

theorem shouldRetry_chunkFailed (chunk : Nat) (ids : List String) (reason : String) :
    repo.shouldRetry (.bulk (.chunkFailed chunk ids reason)) = true ↔
      repo.options.retryTransientOnly = false := by
  cases hmode : repo.options.retryTransientOnly <;>
    simp [shouldRetry, hmode, RepositoryError.isTransient, RepositoryError.isRetryable]

theorem shouldRetry_response (status : Nat) (reason : String) :
    repo.shouldRetry (.engine (.response status reason)) = true ↔
      (repo.options.retryTransientOnly = true → status = 429 ∨ 500 ≤ status) := by
  cases hmode : repo.options.retryTransientOnly <;>
    simp [shouldRetry, hmode, RepositoryError.isTransient, RepositoryError.isRetryable]

/-- The requests for a chunk that is not cancelled, and after which of them comes another. -/
theorem exists_run_followed (hmeasurable : repo.retry.IsMeasurable) (chunk : Nat)
    (actions : List BulkAction) (session : Session (EngineState σ))
    (h : (repo.sendChunk chunk actions session).2.isCancelled = false) :
    ∃ run : ChunkRun, run.actions = actions ∧ run.IsFrom repo chunk session ∧
      ∀ k request, run.requests[k]? = some request → k + 1 < repo.retry.maxAttempts →
        (k + 1 < run.requests.length ↔
          ∃ error, chunkResult chunk request.1 request.2 = .error error ∧
            repo.shouldRetry error = true) := by
  obtain ⟨failed, hcourse⟩ := RetryPolicy.exists_course hmeasurable repo.shouldRetry
    (fun _ now => repo.attemptChunk chunk now) (session.sending actions) h
  refine ⟨⟨actions, (List.range (failed + 1)).map fun k => repo.chunkRequest
    (Operation.startAfter (fun _ now => repo.attemptChunk chunk now) repo.retry.waitAfter
      (session.sending actions).standpoint k).state, (repo.sendChunk chunk actions session).1⟩,
    rfl, ⟨rfl, ?_⟩, ?_⟩
  · rw [ChunkRun.exchanges, List.map_map]
    exact hcourse.exchanged (repo.makes_attemptChunk chunk)
  · intro k request hrequest hleft
    obtain ⟨rfl, hfollowed⟩ := hcourse.isLast.followed_map_iff hrequest hleft
    rw [hfollowed, Operation.outcomeAfter, Operation.attemptAt, attemptChunk_outcome]
    rfl

/-- The answers to a call that is not cancelled, and after which of them it is made again. -/
theorem exists_answers_followed (hmeasurable : repo.retry.IsMeasurable) (call : Engine.Call)
    (session : Session (EngineState σ)) (h : (repo.call call session).2.isCancelled = false) :
    ∃ answers : List (Except EngineError call.Answer),
      session.state.Exchanged repo.engine (answers.map (⟨call, ·⟩))
        (repo.call call session).2.state ∧
      ∀ k answer, answers[k]? = some answer → k + 1 < repo.retry.maxAttempts →
        (k + 1 < answers.length ↔
          ∃ error, answer = .error error ∧ repo.shouldRetry (.engine error) = true) := by
  obtain ⟨failed, hcourse⟩ := RetryPolicy.exists_course hmeasurable repo.shouldRetry
    (fun _ now => repo.engine.attempt call now) session h
  refine ⟨(List.range (failed + 1)).map fun k => repo.engine.answer call
    (Operation.startAfter (fun _ now => repo.engine.attempt call now) repo.retry.waitAfter
      session.standpoint k).state.engine, ?_, ?_⟩
  · rw [List.map_map]
    exact hcourse.exchanged (repo.makes_attempt call)
  · intro k answer hanswer hleft
    obtain ⟨rfl, hfollowed⟩ := hcourse.isLast.followed_map_iff hanswer hleft
    rw [hfollowed, Operation.outcomeAfter, Operation.attemptAt, Engine.outcome_attempt]
    cases repo.engine.answer call _ with
    | ok answer =>
      constructor
      · rintro ⟨_, herror, -⟩
        cases herror
      · rintro ⟨_, herror, -⟩
        cases herror
    | error error =>
      constructor
      · rintro ⟨_, ⟨⟩, hretry⟩
        exact ⟨error, rfl, hretry⟩
      · rintro ⟨_, ⟨⟩, hretry⟩
        exact ⟨.engine error, rfl, hretry⟩

/-- After which refusals there is another request for a chunk and after which another
attempt at a call, while there are attempts left. -/
structure RetriesByStatus (run : ChunkRun) (call : Engine.Call)
    (answers : List (Except EngineError call.Answer)) : Prop where
  chunk_iff : ∀ k request status, run.requests[k]? = some request → request.IsRefused status →
    k + 1 < repo.retry.maxAttempts →
      (k + 1 < run.requests.length ↔ repo.options.retryTransientOnly = false)
  call_iff : ∀ k status reason, answers[k]? = some (.error (.response status reason)) →
    k + 1 < repo.retry.maxAttempts →
      (k + 1 < answers.length ↔
        (repo.options.retryTransientOnly = true → status = 429 ∨ 500 ≤ status))
  /-- The same status is treated alike unless it looks passing and the option is on. -/
  alike_iff : ∀ k j request status reason, run.requests[k]? = some request →
    request.IsRefused status → answers[j]? = some (.error (.response status reason)) →
    k + 1 < repo.retry.maxAttempts → j + 1 < repo.retry.maxAttempts →
      ((k + 1 < run.requests.length ↔ j + 1 < answers.length) ↔
        ¬(repo.options.retryTransientOnly = true ∧ (status = 429 ∨ 500 ≤ status)))

/-- A chunk and a call that are refused with the same status, without cancellation. -/
theorem retries_by_status (hmeasurable : repo.retry.IsMeasurable) (chunk : Nat)
    (actions : List BulkAction) (call : Engine.Call) (sending calling : Session (EngineState σ))
    (hsending : (repo.sendChunk chunk actions sending).2.isCancelled = false)
    (hcalling : (repo.call call calling).2.isCancelled = false) :
    ∃ (run : ChunkRun) (answers : List (Except EngineError call.Answer)),
      run.actions = actions ∧ run.IsFrom repo chunk sending ∧
      calling.state.Exchanged repo.engine (answers.map (⟨call, ·⟩))
        (repo.call call calling).2.state ∧
      repo.RetriesByStatus run call answers := by
  obtain ⟨run, hactions, hrun, hrequests⟩ :=
    repo.exists_run_followed hmeasurable chunk actions sending hsending
  obtain ⟨answers, hexchanged, hanswers⟩ :=
    repo.exists_answers_followed hmeasurable call calling hcalling
  have hchunk (k : Nat) (request : BulkRequest) (status : Nat)
      (hrequest : run.requests[k]? = some request) (hrefused : request.IsRefused status)
      (hleft : k + 1 < repo.retry.maxAttempts) :
      k + 1 < run.requests.length ↔ repo.options.retryTransientOnly = false := by
    obtain ⟨reason, hfailed⟩ := chunkResult_of_isRefused chunk hrefused
    simp [hrequests k request hrequest hleft, hfailed, shouldRetry_chunkFailed]
  have hcall (k status : Nat) (reason : String)
      (hanswer : answers[k]? = some (.error (.response status reason)))
      (hleft : k + 1 < repo.retry.maxAttempts) :
      k + 1 < answers.length ↔
        (repo.options.retryTransientOnly = true → status = 429 ∨ 500 ≤ status) := by
    simp [hanswers k _ hanswer hleft, ← shouldRetry_response repo status reason]
  refine ⟨run, answers, hactions, hrun, hexchanged, hchunk, hcall, ?_⟩
  intro k j request status reason hrequest hrefused hanswer hk hj
  rw [hchunk k request status hrequest hrefused hk, hcall j status reason hanswer hj]
  cases repo.options.retryTransientOnly <;> simp

/-- A repository that is to try again what looks passing, on an engine that answers
everything with status 503. -/
def onUnavailable : Repository Unit where
  options := { index := "orders", retryTransientOnly := true }
  schema := ⟨"Order", []⟩
  retry := .standard
  engine := {
    respond call _ :=
      match call with
      | .bulk _ _ => ({ outcome := .ok { status := 503 } }, ())
      | _ => ({ outcome := .error (.response 503 "unavailable") }, ()) }

/-- Of five attempts a chunk gets one and a call gets all. -/
theorem retries_by_status_onUnavailable :
    let start : Session (EngineState Unit) := .start { engine := () } none
    let call : Engine.Call := .getDocument (onUnavailable.ref "a")
    (onUnavailable.sendChunk 0 [.delete "a"] start).2.state.calls.length = 1 ∧
      (onUnavailable.call call start).2.state.calls.length = 5 ∧
      ∃ (run : ChunkRun) (answers : List (Except EngineError call.Answer)),
        run.actions = [.delete "a"] ∧ run.IsFrom onUnavailable 0 start ∧
        start.state.Exchanged onUnavailable.engine (answers.map (⟨call, ·⟩))
          (onUnavailable.call call start).2.state ∧
        onUnavailable.RetriesByStatus run call answers := by
  intro start call
  refine ⟨by decide +kernel, by decide +kernel, ?_⟩
  exact retries_by_status onUnavailable (RetryPolicy.isMeasurable_ofAttempts (by decide)) 0
    [.delete "a"] call start start (by decide +kernel) (by decide +kernel)

end Repository

end SearchStore
