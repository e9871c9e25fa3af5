import SearchStore.Proofs.Bulk.Steps
import SearchStore.Proofs.Repository.Exchange

/-!
The requests made for one chunk of a load. The first one carries the whole chunk,
and there are no more than the policy allows. How the chunk ends is decided by
the last request and its answer: all went well when it was answered with status
200 and no item failed.
-/

namespace SearchStore

variable {σ : Type}

/-- The entry that a chunk leaves in the failures of a load, if it failed: by the
actions of its last request and what came of them. -/
def chunkFailure? (chunk : Nat) (actions : List BulkAction) :
    Except EngineError BulkResponse → Option String
  | .error error => some error.message
  | .ok response =>
    if response.status = 400 ∨ response.status = 413 then
      some ("chunk " ++ toString chunk ++ ": " ++ response.reason.getD "")
    else if response.status ≠ 200 then
      some (BulkError.chunkFailed chunk (actions.map (·.id))
        (response.reason.getD ("status " ++ toString response.status))).message
    else
      match response.failedItems with
      | [] => none
      | first :: others =>
        some (BulkError.chunkFailed chunk ((first :: others).map (·.id))
          (first.reason.getD ("status " ++ toString first.status))).message

/-- A chunk has not failed exactly when its last request was answered with status
200 and without failed items. -/
theorem chunkFailure?_eq_none_iff (chunk : Nat) (actions : List BulkAction)
    (answer : Except EngineError BulkResponse) :
    chunkFailure? chunk actions answer = none ↔
      ∃ response, answer = .ok response ∧ response.status = 200 ∧ response.failedItems = [] := by
  cases answer with
  | error error => simp [chunkFailure?]
  | ok response =>
    simp only [chunkFailure?, Except.ok.injEq, exists_eq_left']
    by_cases hrefused : response.status = 400 ∨ response.status = 413
    · have hne : response.status ≠ 200 := by omega
      simp [hrefused, hne]
    · by_cases hstatus : response.status = 200
      · cases hfailed : response.failedItems <;> simp [hstatus]
      · simp [hrefused, hstatus]

/-- The requests made for one chunk, each with what came of it, the last one apart. -/
structure Sending where
  earlier : List (List BulkAction × Except EngineError BulkResponse)
  last : List BulkAction × Except EngineError BulkResponse

namespace Sending

def requests (sending : Sending) : List (List BulkAction × Except EngineError BulkResponse) :=
  sending.earlier ++ [sending.last]

def first (sending : Sending) : List BulkAction := (sending.earlier.head?.getD sending.last).1

def exchanges (index : String) (sending : Sending) : List Exchange :=
  sending.requests.map fun request => ⟨.bulk index request.1, request.2⟩

def failure? (chunk : Nat) (sending : Sending) : Option String :=
  chunkFailure? chunk sending.last.1 sending.last.2

end Sending

namespace Repository

def chunkResult (chunk : Nat) (actions : List BulkAction) :
    Except EngineError BulkResponse → Except RepositoryError (Option String)
  | .error error => .error (.engine error)
  | .ok response => (chunkOutcome chunk actions response).1

def leftToSend (actions : List BulkAction) : Except EngineError BulkResponse → List BulkAction
  | .error _ => actions
  | .ok response =>
    if response.status = 200 ∧ response.failedItems ≠ [] then
      actionsToResend actions response.failedItems
    else actions

theorem isFinalRefusal_iff (status : Nat) :
    isFinalRefusal status = true ↔ status = 400 ∨ status = 413 := by
  simp [isFinalRefusal]

theorem chunkOutcome_snd (chunk : Nat) (actions : List BulkAction) (response : BulkResponse) :
    (chunkOutcome chunk actions response).2 = leftToSend actions (.ok response) := by
  simp only [chunkOutcome, leftToSend, isFinalRefusal_iff]
  by_cases hrefused : response.status = 400 ∨ response.status = 413
  · have hne : response.status ≠ 200 := by omega
    simp [hrefused, hne]
  · by_cases hstatus : response.status = 200
    · cases hfailed : response.failedItems <;> simp [hstatus]
    · simp [hrefused, hstatus]

theorem failureOf_chunkResult (chunk : Nat) (actions : List BulkAction)
    (answer : Except EngineError BulkResponse) :
    failureOf chunk (chunkResult chunk actions answer) = chunkFailure? chunk actions answer := by
  cases answer with
  | error error => rfl
  | ok response =>
    simp only [chunkResult, chunkOutcome, chunkFailure?, isFinalRefusal_iff]
    split
    · rfl
    · split
      · rfl
      · cases response.failedItems <;> rfl

theorem chunkResult_ne_cancelled (chunk : Nat) (actions : List BulkAction)
    (answer : Except EngineError BulkResponse) :
    chunkResult chunk actions answer ≠ .error .cancelled := by
  cases answer with
  | error error => simp [chunkResult]
  | ok response =>
    simp only [chunkResult, chunkOutcome]
    split
    · simp
    · split
      · simp
      · split <;> simp

/-- A chunk is done when it is answered with status 200 and without failed items. -/
theorem chunkResult_of_taken (chunk : Nat) (actions : List BulkAction) {response : BulkResponse}
    (hstatus : response.status = 200) (hfailed : response.failedItems = []) :
    chunkResult chunk actions (.ok response) = .ok none := by
  simp [chunkResult, chunkOutcome, isFinalRefusal, hstatus, hfailed]

/-- An answer with failed items is an error of the chunk. -/
theorem chunkResult_of_failed (chunk : Nat) (actions : List BulkAction) {response : BulkResponse}
    (hstatus : response.status = 200) (hfailed : response.failedItems ≠ []) :
    ∃ error, chunkResult chunk actions (.ok response) = .error (.bulk error) := by
  obtain ⟨first, others, hitems⟩ := List.exists_cons_of_ne_nil hfailed
  simp [chunkResult, chunkOutcome, isFinalRefusal, hstatus, hitems]

variable (repo : Repository σ) (chunk : Nat)

def chunkRequest (state : EngineState σ × List BulkAction) :
    List BulkAction × Except EngineError BulkResponse :=
  (state.2, repo.engine.answer (.bulk repo.index state.2) state.1.engine)

theorem attemptChunk_outcome (now : Nat) (state : EngineState σ × List BulkAction) :
    (repo.attemptChunk chunk now state).1.outcome =
      chunkResult chunk state.2 (repo.chunkRequest state).2 := by
  simp only [attemptChunk, Engine.attempt, chunkRequest, Engine.answer, Attempt.mapError]
  cases (repo.engine.respond (.bulk repo.index state.2) state.1.engine).1.outcome <;> rfl

theorem attemptChunk_state (now : Nat) (state : EngineState σ × List BulkAction) :
    (repo.attemptChunk chunk now state).2 =
      ((repo.engine.attempt (.bulk repo.index state.2) now state.1).2,
        leftToSend state.2 (repo.chunkRequest state).2) := by
  simp only [attemptChunk, Engine.attempt, chunkRequest, Engine.answer, Attempt.mapError]
  cases (repo.engine.respond (.bulk repo.index state.2) state.1.engine).1.outcome with
  | error error => rfl
  | ok response =>
    rw [← chunkOutcome_snd]
    rfl

theorem attemptChunk_cancels (now : Nat) (state : EngineState σ × List BulkAction) :
    (repo.attemptChunk chunk now state).1.cancels =
      (repo.engine.respond (.bulk repo.index state.2) state.1.engine).1.cancels := by
  simp only [attemptChunk]
  split <;> rfl

/-- The failed attempts to send a chunk, as exchanges. -/
theorem exchanged_attemptChunk {initial state : EngineState σ × List BulkAction}
    {visited : List (EngineState σ × List BulkAction)}
    (h : repo.retry.Attempts repo.shouldRetry (fun _ now => repo.attemptChunk chunk now)
      initial visited state) :
    (visited.head?.getD state).2 = initial.2 ∧
      initial.1.Exchanged repo.engine
        ((visited.map repo.chunkRequest).map fun request => ⟨.bulk repo.index request.1, request.2⟩)
        state.1 := by
  induction h with
  | start => exact ⟨rfl, .refl initial.1⟩
  | @retried visited state delay now hvisited hdelay ih =>
    obtain ⟨hfirst, hstate⟩ := ih
    rw [attemptChunk_state]
    constructor
    · cases visited with
      | nil => exact hfirst
      | cons v rest => exact hfirst
    · rw [List.map_append, List.map_append]
      exact hstate.append (.attempt (.bulk repo.index state.2) now state.1)

/-- The sending of a chunk is cancelled, or it ends with what its last attempt
comes to. -/
theorem completed_sendChunk (actions : List BulkAction) (session : Session (EngineState σ)) :
    ((repo.sendChunk chunk actions session).1 = .error .cancelled ∧
      (repo.sendChunk chunk actions session).2.isCancelled = true) ∨
    ∃ visited state now,
      repo.retry.Attempts repo.shouldRetry (fun _ now => repo.attemptChunk chunk now)
        (session.state, actions) visited state ∧
      visited.length < repo.retry.maxAttempts ∧
      (repo.sendChunk chunk actions session).1 =
        chunkResult chunk state.2 (repo.chunkRequest state).2 ∧
      (repo.sendChunk chunk actions session).2.state =
        (repo.engine.attempt (.bulk repo.index state.2) now state.1).2 := by
  rcases RetryPolicy.execute_completed repo.retry repo.shouldRetry
    (fun _ now => repo.attemptChunk chunk now)
    ({ session with state := (session.state, actions) } :
      Session (EngineState σ × List BulkAction)) with hcancelled | ⟨visited, state, now, hend⟩
  · have hfired := RetryPolicy.isCancelled_of_execute_eq _ _ _ _ hcancelled
    refine .inl ⟨?_, Session.isCancelled_of_le _ _ rfl (Nat.le_refl _) hfired⟩
    simp only [sendChunk]
    rw [hcancelled]
    rfl
  · refine .inr ⟨visited, state, now, hend.attempts, hend.length_lt, ?_, ?_⟩
    · simp only [sendChunk]
      rw [hend.result_eq, attemptChunk_outcome]
      cases chunkResult chunk state.2 (repo.chunkRequest state).2 <;> rfl
    · simp only [sendChunk]
      rw [hend.final_eq, attemptChunk_state]

/-- A chunk whose sending is not cancelled, request by request. -/
theorem exchanged_sendChunk (actions : List BulkAction) (session : Session (EngineState σ))
    (h : (repo.sendChunk chunk actions session).2.isCancelled = false) :
    ∃ sending : Sending, sending.first = actions ∧
      sending.requests.length ≤ repo.retry.maxAttempts ∧
      (repo.sendChunk chunk actions session).1 ≠ .error .cancelled ∧
      failureOf chunk (repo.sendChunk chunk actions session).1 = sending.failure? chunk ∧
      session.state.Exchanged repo.engine (sending.exchanges repo.index)
        (repo.sendChunk chunk actions session).2.state := by
  rcases completed_sendChunk repo chunk actions session with
    ⟨-, hfired⟩ | ⟨visited, state, now, hattempts, hlength, hresult, hstate⟩
  · simp [h] at hfired
  · obtain ⟨hfirst, hexchanged⟩ := exchanged_attemptChunk repo chunk hattempts
    refine ⟨⟨visited.map repo.chunkRequest, repo.chunkRequest state⟩, ?_, ?_, ?_, ?_, ?_⟩
    · refine Eq.trans ?_ hfirst
      cases visited <;> rfl
    · simp only [Sending.requests, List.length_append, List.length_map, List.length_singleton]
      omega
    · rw [hresult]
      exact chunkResult_ne_cancelled _ _ _
    · rw [hresult, failureOf_chunkResult]
      rfl
    · rw [hstate]
      simp only [Sending.exchanges, Sending.requests, List.map_append]
      exact hexchanged.append (.attempt (.bulk repo.index state.2) now state.1)

/-- The sending of chunks ends as cancelled, or the first chunk has ended in some
other way and leaves its entry before those of the rest. -/
theorem sendChunks_cons (actions : List BulkAction) (rest : List (List BulkAction))
    (session : Session (EngineState σ)) :
    ((repo.sendChunks chunk (actions :: rest) session).1 = .error .cancelled ∧
      (repo.sendChunks chunk (actions :: rest) session).2.isCancelled = true) ∨
    (repo.sendChunk chunk actions session).1 ≠ .error .cancelled ∧
      repo.sendChunks chunk (actions :: rest) session =
        (repo.sendChunks (chunk + 1) rest >>= fun failures => (pure
          ((failureOf chunk (repo.sendChunk chunk actions session).1).toList ++ failures) :
            Action σ (List String))) (repo.sendChunk chunk actions session).2 := by
  have hends := completed_sendChunk repo chunk actions session
  rw [run_sendChunks_cons]
  cases hcancelled : session.isCancelled with
  | true => exact .inl ⟨rfl, hcancelled⟩
  | false =>
    simp only [Bool.false_eq_true, if_false]
    cases hsent : repo.sendChunk chunk actions session with
    | mk result later =>
      rw [hsent] at hends
      rcases hends with ⟨hresult, hfired⟩ | ⟨_, state, _, -, -, hresult, -⟩
      · simp only at hresult
        subst hresult
        exact .inl ⟨rfl, hfired⟩
      · have hne := chunkResult_ne_cancelled chunk state.2 (repo.chunkRequest state).2
        rw [← hresult] at hne
        refine .inr ⟨hne, ?_⟩
        cases result with
        | ok reason => rfl
        | error error =>
          cases error with
          | cancelled => exact absurd rfl hne
          | _ => rfl

end Repository

end SearchStore
