import SearchStore.Proofs.Containers
import SearchStore.Proofs.Retry.Delivery
import SearchStore.Repository.Basic

/-!
What passes between a repository and its engine: the calls in their order, each
with what came of it. A call under the retry policy that is not cancelled is
made at least once and at most as often as the policy allows; all its attempts
but the last fail, and the last one is what comes of the call.
-/

namespace SearchStore

variable {σ : Type}

structure Exchange where
  call : Engine.Call
  answer : Except EngineError call.Answer

def Engine.answer (engine : Engine σ) (call : Engine.Call) (state : σ) :
    Except EngineError call.Answer :=
  (engine.respond call state).1.outcome

inductive Engine.Exchanges (engine : Engine σ) : σ → List Exchange → σ → Prop
  | nil (state : σ) : Exchanges engine state [] state
  | cons {state final : σ} {rest : List Exchange} (call : Engine.Call)
      (hrest : Exchanges engine (engine.respond call state).2 rest final) :
      Exchanges engine state (⟨call, engine.answer call state⟩ :: rest) final

theorem Engine.Exchanges.append {engine : Engine σ} {before middle after : σ}
    {first second : List Exchange} (hfirst : engine.Exchanges before first middle)
    (hsecond : engine.Exchanges middle second after) :
    engine.Exchanges before (first ++ second) after := by
  induction hfirst with
  | nil state => exact hsecond
  | cons call hrest ih => exact .cons call (ih hsecond)

/-- Every answer is one that the engine gives to the call in some state. -/
theorem Engine.Exchanges.exists_answer {engine : Engine σ} {before after : σ}
    {exchanges : List Exchange} (h : engine.Exchanges before exchanges after) {exchange : Exchange}
    (hmem : exchange ∈ exchanges) :
    ∃ state, exchange.answer = engine.answer exchange.call state := by
  induction h with
  | nil => simp at hmem
  | @cons state final rest call hrest ih =>
    rcases List.mem_cons.mp hmem with rfl | hlater
    · exact ⟨state, rfl⟩
    · exact ih hlater

/-- A later state comes of an earlier one by these exchanges and no others: all
their calls are on record, in their order. -/
structure EngineState.Exchanged (engine : Engine σ) (before : EngineState σ)
    (exchanges : List Exchange) (after : EngineState σ) : Prop where
  states : engine.Exchanges before.engine exchanges after.engine
  calls : after.calls.map Prod.snd =
    (exchanges.map Exchange.call).reverse ++ before.calls.map Prod.snd

namespace EngineState.Exchanged

variable {engine : Engine σ}

theorem refl (state : EngineState σ) : Exchanged engine state [] state :=
  ⟨.nil _, rfl⟩

theorem append {before middle after : EngineState σ} {first second : List Exchange}
    (hfirst : Exchanged engine before first middle)
    (hsecond : Exchanged engine middle second after) :
    Exchanged engine before (first ++ second) after where
  states := hfirst.states.append hsecond.states
  calls := by
    rw [hsecond.calls, hfirst.calls]
    simp

theorem length_calls {before after : EngineState σ} {exchanges : List Exchange}
    (h : Exchanged engine before exchanges after) :
    after.calls.length = exchanges.length + before.calls.length := by
  simpa using congrArg List.length h.calls

theorem attempt (call : Engine.Call) (now : Nat) (state : EngineState σ) :
    Exchanged engine state [⟨call, engine.answer call state.engine⟩]
      (engine.attempt call now state).2 :=
  ⟨.cons call (.nil _), rfl⟩

end EngineState.Exchanged

theorem Engine.outcome_attempt (engine : Engine σ) (call : Engine.Call) (now : Nat)
    (state : EngineState σ) :
    (engine.attempt call now state).1.outcome =
      (engine.answer call state.engine).mapError .engine :=
  rfl

/-- What comes of the attempts at one thing: all but the last fail, the last one
counts, and there are not too many. -/
structure Tried {ε α : Type} (attempts : Nat) (outcomes : List (Except ε α)) (last : Except ε α) :
    Prop where
  earlier_failed : ∃ earlier, outcomes = earlier ++ [last] ∧ ∀ o ∈ earlier, ∃ e, o = .error e
  length_le : outcomes.length ≤ attempts

theorem Tried.length_pos {ε α : Type} {attempts : Nat} {outcomes : List (Except ε α)}
    {last : Except ε α} (h : Tried attempts outcomes last) : 0 < outcomes.length := by
  obtain ⟨earlier, rfl, -⟩ := h.earlier_failed
  simp

namespace Repository

/-- A call that is answered is not made again. -/
theorem call_of_answer (repo : Repository σ) {call : Engine.Call} {answer : call.Answer}
    {session : Session (EngineState σ)} (huncancelled : session.cancelledAt = none)
    (hcalm : (repo.engine.respond call session.state.engine).1.cancels = false)
    (hanswer : repo.engine.answer call session.state.engine = .ok answer) :
    repo.call call session =
      (.ok answer, { session with
        now := session.now +
          min (repo.engine.respond call session.state.engine).1.duration longestSleep
        state := (repo.engine.attempt call session.now session.state).2 }) := by
  have houtcome : (repo.engine.attempt call session.now session.state).1.outcome = .ok answer := by
    rw [Engine.outcome_attempt, hanswer]
    rfl
  rw [Repository.call,
    RetryPolicy.execute_of_ok repo.retry repo.shouldRetry huncancelled hcalm houtcome]
  rfl

section Calls

variable (repo : Repository σ) (call : Engine.Call)

/-- What the engine keeps in answering a call, the call keeps under any policy,
cancelled or not. -/
theorem call_keeps (known : σ → Prop)
    (hkeeps : ∀ state, known state → known (repo.engine.respond call state).2)
    (session : Session (EngineState σ)) (h : known session.state.engine) :
    known (repo.call call session).2.state.engine := by
  have hinvariant : Task.AttemptInvariant repo.retry repo.shouldRetry
      (fun _ now => repo.engine.attempt call now)
      (fun _ state => known state.engine) (fun _ state => known state.engine) := {
    cancelled := fun _ _ hknown => hknown
    interrupted := fun _ _ state hknown => hkeeps state.engine hknown
    stopped := fun _ _ state _ hknown _ => hkeeps state.engine hknown
    retried := fun _ _ state _ hknown _ => hkeeps state.engine hknown }
  exact RetryPolicy.execute_induction hinvariant session h

/-- What is tried again has failed. -/
theorem exists_error_of_retried {n delay now : Nat} {state : EngineState σ}
    (h : repo.retry.nextDelay? repo.shouldRetry n (repo.engine.attempt call now state).1.outcome =
      some delay) : ∃ error, repo.engine.answer call state.engine = .error error := by
  obtain ⟨_, herror, -⟩ := RetryPolicy.exists_error_of_nextDelay?_eq_some h
  rw [Engine.outcome_attempt] at herror
  obtain ⟨error, hanswer, -⟩ := Except.mapError_eq_error_iff.mp herror
  exact ⟨error, hanswer⟩

/-- How the requests of a call go, each with what comes of it. Some fail, and each of them
is followed by another one, but for a cancellation. It may come before the next request or
cut it short; else what comes of this request is what comes of the call. -/
inductive CallRun (before : EngineState σ) : Except RepositoryError call.Answer →
    List (Except EngineError call.Answer) → EngineState σ → Prop
  | cancelled {failed : List EngineError} {after : EngineState σ}
      (hlt : failed.length < repo.retry.maxAttempts)
      (hfailed : before.Exchanged repo.engine
        (failed.map fun error => ⟨call, .error error⟩) after) :
      CallRun before (.error .cancelled) (failed.map .error) after
  | interrupted {failed : List EngineError} {middle : EngineState σ} (now : Nat)
      (hlt : failed.length < repo.retry.maxAttempts)
      (hfailed : before.Exchanged repo.engine
        (failed.map fun error => ⟨call, .error error⟩) middle) :
      CallRun before (.error .cancelled)
        (failed.map .error ++ [repo.engine.answer call middle.engine])
        (repo.engine.attempt call now middle).2
  | ended {failed : List EngineError} {middle : EngineState σ} (now : Nat)
      (hlt : failed.length < repo.retry.maxAttempts)
      (hfailed : before.Exchanged repo.engine
        (failed.map fun error => ⟨call, .error error⟩) middle)
      (hlast : repo.retry.nextDelay? repo.shouldRetry (failed.length + 1)
        (repo.engine.attempt call now middle).1.outcome = none) :
      CallRun before ((repo.engine.answer call middle.engine).mapError .engine)
        (failed.map .error ++ [repo.engine.answer call middle.engine])
        (repo.engine.attempt call now middle).2

/-- The requests of a call, cancelled or not. -/
theorem exists_callRun (session : Session (EngineState σ)) :
    ∃ answers, repo.CallRun call session.state (repo.call call session).1 answers
      (repo.call call session).2.state := by
  have hkeeps : Task.AttemptInvariant repo.retry repo.shouldRetry
      (fun _ now => repo.engine.attempt call now)
      (fun n state => ∃ failed : List EngineError, n = failed.length + 1 ∧
        failed.length < repo.retry.maxAttempts ∧
        session.state.Exchanged repo.engine (failed.map fun error => ⟨call, .error error⟩) state)
      (fun result state => ∃ answers, repo.CallRun call session.state
        (result.mapError RetryFailure.toError) answers state) := {
    cancelled := fun _ _ ⟨_, _, hlt, hfailed⟩ => ⟨_, .cancelled hlt hfailed⟩
    interrupted := fun _ now _ ⟨_, _, hlt, hfailed⟩ => ⟨_, .interrupted now hlt hfailed⟩
    stopped := by
      rintro _ now state - ⟨failed, rfl, hlt, hfailed⟩ hlast
      have hresult : ((repo.engine.attempt call now state).1.outcome.mapError
          RetryFailure.failed).mapError RetryFailure.toError =
            (repo.engine.answer call state.engine).mapError .engine := by
        rw [Engine.outcome_attempt]
        cases repo.engine.answer call state.engine <;> rfl
      rw [hresult]
      exact ⟨_, .ended now hlt hfailed hlast⟩
    retried := by
      rintro _ now state delay ⟨failed, rfl, hlt, hfailed⟩ hdelay
      obtain ⟨error, hanswer⟩ := repo.exists_error_of_retried call hdelay
      refine ⟨failed ++ [error], by simp, ?_, ?_⟩
      · rw [List.length_append, List.length_singleton]
        exact RetryPolicy.lt_of_nextDelay?_eq_some hdelay
      · rw [List.map_append, List.map_singleton, ← hanswer]
        exact hfailed.append (.attempt call now state) }
  exact RetryPolicy.execute_induction hkeeps session
    ⟨[], rfl, repo.retry.maxAttempts_pos, .refl _⟩

/-- A call ends as cancelled, which happens only when cancellation has fired, or with what
comes of a request. -/
theorem call_cases (session : Session (EngineState σ)) :
    (repo.retry.execute repo.shouldRetry (fun _ now => repo.engine.attempt call now) session).1 =
        .error .cancelled ∧ (repo.call call session).2.isCancelled = true ∨
      ∃ state, (repo.call call session).1 = (repo.engine.answer call state).mapError .engine := by
  rcases RetryPolicy.execute_completed repo.retry repo.shouldRetry
    (fun _ now => repo.engine.attempt call now) session with
    hcancelled | ⟨visited, state, now, hend⟩
  · exact .inl ⟨hcancelled, RetryPolicy.isCancelled_of_execute_eq _ _ _ _ hcancelled⟩
  · refine .inr ⟨state.engine, ?_⟩
    simp only [Repository.call, hend.result_eq, Engine.outcome_attempt]
    cases repo.engine.answer call state.engine <;> rfl

theorem isCancelled_of_call_eq (session : Session (EngineState σ))
    (h : (repo.call call session).1 = .error .cancelled) :
    (repo.call call session).2.isCancelled = true := by
  rcases repo.call_cases call session with ⟨-, hcancelled⟩ | ⟨state, hresult⟩
  · exact hcancelled
  · rw [hresult] at h
    obtain ⟨_, -, hcancelled⟩ := Except.mapError_eq_error_iff.mp h
    cases hcancelled

/-- A call makes a session void only if its last request has failed. -/
theorem overflowed_call_or (session : Session (EngineState σ)) :
    (repo.call call session).2.overflowed = session.overflowed ∨
      ∃ error, (repo.call call session).1 = .error (.engine error) := by
  rcases repo.retry.overflowed_execute_or repo.shouldRetry
    (fun _ now => repo.engine.attempt call now) session with hvalid | ⟨error, hfailed⟩
  · exact .inl hvalid
  · rcases repo.call_cases call session with ⟨hcancelled, -⟩ | ⟨state, hresult⟩
    · rw [hfailed] at hcancelled
      cases hcancelled
    · have herror : (repo.call call session).1 = .error error := by
        simp only [Repository.call, hfailed]
        rfl
      obtain ⟨reason, -, rfl⟩ := Except.mapError_eq_error_iff.mp (hresult.symm.trans herror)
      exact .inr ⟨reason, herror⟩

namespace CallRun

variable {repo call} {before after : EngineState σ} {result : Except RepositoryError call.Answer}
  {answers : List (Except EngineError call.Answer)}

theorem exchanged (h : repo.CallRun call before result answers after) :
    before.Exchanged repo.engine (answers.map (⟨call, ·⟩)) after := by
  cases h with
  | cancelled _ hfailed =>
    rw [List.map_map]
    exact hfailed
  | interrupted now _ hfailed =>
    rw [List.map_append, List.map_map]
    exact hfailed.append (.attempt call now _)
  | ended now _ hfailed =>
    rw [List.map_append, List.map_map]
    exact hfailed.append (.attempt call now _)

theorem length_le (h : repo.CallRun call before result answers after) :
    answers.length ≤ repo.retry.maxAttempts := by
  cases h with
  | cancelled hlt =>
    rw [List.length_map]
    exact Nat.le_of_lt hlt
  | interrupted _ hlt => simpa [Nat.succ_le_iff] using hlt
  | ended _ hlt => simpa [Nat.succ_le_iff] using hlt

theorem exists_error_of_mem_map {failed : List EngineError}
    {answer : Except EngineError call.Answer} (h : answer ∈ failed.map .error) :
    ∃ error, answer = .error error := by
  obtain ⟨error, -, rfl⟩ := List.mem_map.mp h
  exact ⟨error, rfl⟩

/-- No request follows one that is answered. -/
theorem exists_error_of_mem_dropLast (h : repo.CallRun call before result answers after) :
    ∀ answer ∈ answers.dropLast, ∃ error, answer = .error error := by
  intro answer hanswer
  cases h with
  | cancelled => exact exists_error_of_mem_map (List.dropLast_subset _ hanswer)
  | interrupted =>
    rw [List.dropLast_concat] at hanswer
    exact exists_error_of_mem_map hanswer
  | ended =>
    rw [List.dropLast_concat] at hanswer
    exact exists_error_of_mem_map hanswer

/-- What comes of the last request comes of a call that is not cancelled. -/
theorem exists_tried (h : repo.CallRun call before result answers after)
    (hresult : result ≠ .error .cancelled) :
    ∃ last, Tried repo.retry.maxAttempts answers last ∧ result = last.mapError .engine := by
  have hlength := h.length_le
  cases h with
  | cancelled => exact absurd rfl hresult
  | interrupted => exact absurd rfl hresult
  | ended => exact ⟨_, ⟨⟨_, rfl, fun _ => exists_error_of_mem_map⟩, hlength⟩, rfl⟩

/-- A call that is not cancelled comes to an answer exactly if the engine gives it. -/
theorem ok_mem_iff (h : repo.CallRun call before result answers after)
    (hresult : result ≠ .error .cancelled) {answer : call.Answer} :
    .ok answer ∈ answers ↔ result = .ok answer := by
  obtain ⟨last, ⟨⟨earlier, rfl, hearlier⟩, -⟩, rfl⟩ := h.exists_tried hresult
  rw [List.mem_append, List.mem_singleton]
  constructor
  · rintro (hmem | rfl)
    · obtain ⟨error, herror⟩ := hearlier _ hmem
      cases herror
    · rfl
  · intro hanswer
    cases last with
    | ok found =>
      cases hanswer
      exact .inr rfl
    | error error => cases hanswer

/-- An answer is the last thing that comes of the engine. -/
theorem exists_answer_of_ok {answer : call.Answer}
    (h : repo.CallRun call before (.ok answer) answers after) :
    ∃ state, repo.engine.answer call state = .ok answer ∧
      after.engine = (repo.engine.respond call state).2 := by
  generalize hresult : Except.ok answer = result at h
  cases h with
  | cancelled => cases hresult
  | interrupted => cases hresult
  | @ended failed middle now =>
    exact ⟨middle.engine, Except.mapError_eq_ok_iff.mp hresult.symm, rfl⟩

/-- If errors that are worth another attempt are fewer than the attempts, an answer comes. -/
theorem exists_ok_of_few_failed (h : repo.CallRun call before result answers after)
    (hresult : result ≠ .error .cancelled) (hmeasurable : repo.retry.IsMeasurable)
    (hretry : ∀ error, .error error ∈ answers → repo.shouldRetry (.engine error) = true)
    (hfew : answers.countP (!·.isOk) < repo.retry.maxAttempts) :
    ∃ answer, .ok answer ∈ answers := by
  cases h with
  | cancelled => exact absurd rfl hresult
  | interrupted => exact absurd rfl hresult
  | @ended failed middle now hlt hfailed hlast =>
    cases hanswer : repo.engine.answer call middle.engine with
    | ok answer => exact ⟨answer, List.mem_concat_self⟩
    | error error =>
      rw [hanswer] at hretry hfew
      have houtcome : (repo.engine.attempt call now middle).1.outcome = .error (.engine error) := by
        rw [Engine.outcome_attempt, hanswer]
        rfl
      have hused : repo.retry.maxAttempts ≤ failed.length + 1 :=
        RetryPolicy.maxAttempts_le_of_last hmeasurable houtcome
          (hretry error List.mem_concat_self) hlast
      have hall : (failed.map Except.error ++ [.error error] :
          List (Except EngineError call.Answer)).countP (!·.isOk) = failed.length + 1 := by
        simp [Function.comp_def, Except.isOk, Except.toBool]
      omega

end CallRun

def MadeOnly (before after : EngineState σ) : Prop :=
  ∃ answers : List (Except EngineError call.Answer),
    before.Exchanged repo.engine (answers.map (⟨call, ·⟩)) after

/-- A call, cancelled or not, makes no other. -/
theorem madeOnly_call (session : Session (EngineState σ)) :
    repo.MadeOnly call session.state (repo.call call session).2.state := by
  obtain ⟨answers, hrun⟩ := repo.exists_callRun call session
  exact ⟨answers, hrun.exchanged⟩

/-- A call that is not cancelled, attempt by attempt. -/
theorem exchanged_call (session : Session (EngineState σ))
    (h : (repo.call call session).2.isCancelled = false) :
    ∃ answers last, Tried repo.retry.maxAttempts answers last ∧
      (repo.call call session).1 = last.mapError .engine ∧
      session.state.Exchanged repo.engine (answers.map (⟨call, ·⟩))
        (repo.call call session).2.state := by
  obtain ⟨answers, hrun⟩ := repo.exists_callRun call session
  obtain ⟨last, htried, hresult⟩ := hrun.exists_tried fun hcancelled => by
    rw [repo.isCancelled_of_call_eq call session hcancelled] at h
    cases h
  exact ⟨answers, last, htried, hresult, hrun.exchanged⟩

end Calls

end Repository

end SearchStore
