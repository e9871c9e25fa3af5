import SearchStore.Proofs.Retry.Run
import SearchStore.Repository.Bulk

/-!
Operations of a repository as functions of sessions: what sequences of them come
to, and that none of them takes a cancellation back.
-/

namespace SearchStore.Repository

variable {σ α β : Type}

namespace Action

theorem run_pure (a : α) (session : Session (EngineState σ)) :
    (pure a : Action σ α) session = (.ok a, session) := rfl

theorem run_bind (action : Action σ α) (next : α → Action σ β) (session : Session (EngineState σ)) :
    (action >>= next) session =
      match action session with
      | (.ok a, later) => next a later
      | (.error error, later) => (.error error, later) := by
  simp only [bind, ExceptT.bind, ExceptT.mk, StateT.bind, ExceptT.bindCont]
  cases action session with
  | mk result later => cases result <;> rfl

theorem run_bind_ok {action : Action σ α} {next : α → Action σ β}
    {session later : Session (EngineState σ)} {a : α} (h : action session = (.ok a, later)) :
    (action >>= next) session = next a later := by
  rw [run_bind, h]

theorem run_bind_error {action : Action σ α} {next : α → Action σ β}
    {session later : Session (EngineState σ)} {error : RepositoryError}
    (h : action session = (.error error, later)) :
    (action >>= next) session = (.error error, later) := by
  rw [run_bind, h]

/-- To make something of a value leaves the session alone. -/
theorem snd_run_bind_pure (action : Action σ α) (f : α → β) (session : Session (EngineState σ)) :
    ((action >>= fun a => (Pure.pure (f a) : Action σ β)) session).2 = (action session).2 := by
  rw [run_bind]
  cases action session with
  | mk result later => cases result <;> rfl

theorem exists_of_run_bind_eq_ok {action : Action σ α} {next : α → Action σ β}
    {session final : Session (EngineState σ)} {b : β}
    (h : (action >>= next) session = (.ok b, final)) :
    ∃ a later, action session = (.ok a, later) ∧ next a later = (.ok b, final) := by
  rw [run_bind] at h
  cases hrun : action session with
  | mk result later =>
    rw [hrun] at h
    cases result with
    | ok a => exact ⟨a, later, rfl, h⟩
    | error error => exact nomatch congrArg Prod.fst h

/-- A cancellation that has fired before the operation has fired after it. -/
def KeepsCancelled (action : Action σ α) : Prop :=
  ∀ session, session.isCancelled = true → (action session).2.isCancelled = true

theorem KeepsCancelled.pure (a : α) : KeepsCancelled (Pure.pure a : Action σ α) :=
  fun _ h => h

theorem KeepsCancelled.bind {action : Action σ α} {next : α → Action σ β}
    (haction : KeepsCancelled action) (hnext : ∀ a, KeepsCancelled (next a)) :
    KeepsCancelled (action >>= next) := by
  intro session h
  have hlater := haction session h
  rw [run_bind]
  cases hrun : action session with
  | mk result later =>
    rw [hrun] at hlater
    cases result with
    | ok a => exact hnext a later hlater
    | error error => exact hlater

/-- Where no cancellation has fired after an operation, none had before it. -/
theorem KeepsCancelled.eq_false {action : Action σ α} (haction : KeepsCancelled action)
    {session : Session (EngineState σ)} (h : (action session).2.isCancelled = false) :
    session.isCancelled = false := by
  cases hsession : session.isCancelled with
  | false => rfl
  | true => simp [haction session hsession] at h

/-- Where no cancellation has fired after a sequence, none had in the middle. -/
theorem KeepsCancelled.eq_false_of_bind {action : Action σ α} {next : α → Action σ β}
    (hnext : ∀ a, KeepsCancelled (next a)) {session : Session (EngineState σ)}
    (h : ((action >>= next) session).2.isCancelled = false) :
    (action session).2.isCancelled = false := by
  rw [run_bind] at h
  cases hrun : action session with
  | mk result later =>
    rw [hrun] at h
    cases result with
    | ok a => exact (hnext a).eq_false h
    | error error => exact h

/-- All waits of the operation can be measured, so it does not make a session void. -/
def KeepsMeasured (action : Action σ α) : Prop :=
  ∀ session, (action session).2.overflowed = session.overflowed

theorem KeepsMeasured.pure (a : α) : KeepsMeasured (Pure.pure a : Action σ α) :=
  fun _ => rfl

theorem KeepsMeasured.bind {action : Action σ α} {next : α → Action σ β}
    (haction : KeepsMeasured action) (hnext : ∀ a, KeepsMeasured (next a)) :
    KeepsMeasured (action >>= next) := by
  intro session
  have hlater := haction session
  rw [run_bind]
  cases hrun : action session with
  | mk result later =>
    rw [hrun] at hlater
    cases result with
    | ok a => exact (hnext a later).trans hlater
    | error error => exact hlater

end Action

open SearchStore.Repository.Action

theorem keepsCancelled_call (repo : Repository σ) (call : Engine.Call) :
    KeepsCancelled (repo.call call) :=
  fun session h => repo.retry.isCancelled_execute repo.shouldRetry _ session h

section Measured

variable {repo : Repository σ} (hmeasurable : repo.retry.IsMeasurable)
include hmeasurable

theorem keepsMeasured_call (call : Engine.Call) : KeepsMeasured (repo.call call) :=
  fun session => RetryPolicy.overflowed_execute hmeasurable repo.shouldRetry _ session

theorem keepsMeasured_sendChunk (chunk : Nat) (actions : List BulkAction) :
    KeepsMeasured (repo.sendChunk chunk actions) :=
  fun session => RetryPolicy.overflowed_execute hmeasurable repo.shouldRetry
    (fun _ now => repo.attemptChunk chunk now)
    ({ session with state := (session.state, actions) } :
      Session (EngineState σ × List BulkAction))

end Measured

end SearchStore.Repository
