import SearchStore.Proofs.Retry.Delivery

/-!
Operations of which no attempt cancels, in sessions that are not to be cancelled. A
step that does not find itself cancelled is the same step where nothing cancels; one
that finds itself cancelled ends its operation.
-/

namespace SearchStore

variable {σ τ ε α : Type}

/-- The attempt without the cancellation that comes as it ends. -/
def Attempt.quiet (attempt : Attempt ε α) : Attempt ε α := { attempt with cancels := false }

def Operation.quiet (operation : Operation τ ε α) : Operation τ ε α := fun n now state =>
  ((operation n now state).1.quiet, (operation n now state).2)

def Session.quiet (session : Session τ) : Session τ := { session with cancelledAt := none }

def Session.map (view : τ → σ) (session : Session τ) : Session σ :=
  { session with state := view session.state }

namespace Session

variable {session : Session τ} {due : Nat}

theorem cancelledBy_of_isCancelled (h : session.isCancelled = true) (hdue : session.now ≤ due) :
    session.cancelledBy due = some session.now := by
  obtain ⟨instant, hinstant, hfired⟩ := (isCancelled_iff session).mp h
  have hkept : decide (instant ≤ due) = true := decide_eq_true (by omega)
  simp only [cancelledBy, hinstant, Option.filter, hkept, if_true, Option.map_some]
  exact congrArg some (Nat.max_eq_left hfired)

theorem le_of_cancelledBy_eq_some {instant : Nat} (h : session.cancelledBy due = some instant)
    (hdue : session.now ≤ due) : instant ≤ due := by
  unfold cancelledBy at h
  obtain ⟨fired, hfilter, rfl⟩ := Option.map_eq_some_iff.mp h
  have hfired := (Option.filter_eq_some_iff.mp hfilter).2
  exact Nat.max_le.mpr ⟨hdue, of_decide_eq_true hfired⟩

/-- Where cancellation does not fire first it fires later. -/
theorem lt_of_cancelledBy_eq_none (h : session.cancelledBy due = none) {instant : Nat}
    (hinstant : session.cancelledAt = some instant) : due < instant := by
  rw [cancelledBy, hinstant] at h
  simpa [Option.filter_eq_none_iff] using h

theorem isCancelled_of_cancelledBy_eq_none (h : session.cancelledBy due = none)
    (hdue : session.now ≤ due) : session.isCancelled = false := by
  cases hcancelled : session.isCancelled with
  | false => rfl
  | true => simp [cancelledBy_of_isCancelled hcancelled hdue] at h

theorem cancelledBy_quiet (session : Session τ) (due : Nat) :
    session.quiet.cancelledBy due = none := rfl

@[simp] theorem now_map (view : τ → σ) (session : Session τ) :
    (session.map view).now = session.now := rfl

@[simp] theorem isCancelled_map (view : τ → σ) (session : Session τ) :
    (session.map view).isCancelled = session.isCancelled := rfl

end Session

namespace Task

def quiet (task : Task ε α) : Task ε α :=
  match task.stage with
  | .running n attempt => ⟨task.due, .running n attempt.quiet⟩
  | _ => task

theorem due_quiet (task : Task ε α) : task.quiet.due = task.due := by
  unfold quiet
  split <;> rfl

theorem result?_quiet (task : Task ε α) : task.quiet.result? = task.result? := by
  obtain ⟨due, stage⟩ := task
  cases stage <;> rfl

theorem quiet_afterAttempt (policy : RetryPolicy) (retry : ε → Bool) (n now : Nat)
    (outcome : Except ε α) :
    (afterAttempt policy retry n now outcome).quiet = afterAttempt policy retry n now outcome := by
  unfold afterAttempt
  split <;> rfl

section Steps

variable {policy : RetryPolicy} {retry : ε → Bool} {operation : Operation τ ε α} {task : Task ε α}
  {session : Session τ}

/-- A step that finds itself cancelled. -/
theorem step_of_cancelledBy_eq_some (hunended : task.result? = none) {instant : Nat}
    (h : session.cancelledBy task.due = some instant) :
    task.step policy retry operation session =
      (⟨instant, .ended (.error .cancelled)⟩, { session with now := instant }) := by
  obtain ⟨due, stage⟩ := task
  cases stage with
  | ended result => simp [result?] at hunended
  | starting n => simp [step, h]
  | running n attempt => simp [step, h]

variable (policy) (retry) (operation) in
theorem sessionKept_step (hunended : task.result? = none) (hnow : session.now ≤ task.due) :
    SessionKept policy session (task.step policy retry operation session).1
      (task.step policy retry operation session).2 := by
  apply step_sessionKept
  constructor
  · exact hnow
  · exact Nat.le_refl _
  · exact id
  · intro hstage
    rw [result?, hstage] at hunended
    cases hunended
  · exact fun _ => rfl

/-- A step after which cancellation has not fired did not find itself cancelled. -/
theorem cancelledBy_eq_none_of_step (hunended : task.result? = none)
    (h : (task.step policy retry operation session).2.isCancelled = false) :
    session.cancelledBy task.due = none := by
  cases hfires : session.cancelledBy task.due with
  | none => rfl
  | some instant =>
    obtain ⟨-, fired, hfired, hpast⟩ := Session.cancelledBy_eq_some hfires
    have hcancelled : ({ session with now := instant } : Session τ).isCancelled = true :=
      (Session.isCancelled_iff _).mpr ⟨fired, hfired, hpast⟩
    rw [step_of_cancelledBy_eq_some hunended hfires, hcancelled] at h
    cases h

/-- A step that does not find itself cancelled is taken in the same way where
nothing cancels. -/
theorem step_quiet (h : session.cancelledBy task.due = none) :
    task.quiet.step policy retry operation.quiet session.quiet =
      ((task.step policy retry operation session).1.quiet,
        (task.step policy retry operation session).2.quiet) := by
  obtain ⟨due, stage⟩ := task
  cases stage with
  | ended result => rfl
  | starting n =>
    have hquiet : (⟨due, .starting n⟩ : Task ε α).quiet = ⟨due, .starting n⟩ := rfl
    rw [hquiet, step_starting_of_free h,
      step_starting_of_free (session.cancelledBy_quiet due)]
    rfl
  | running n attempt =>
    have hquiet : (⟨due, .running n attempt⟩ : Task ε α).quiet = ⟨due, .running n attempt.quiet⟩ :=
      rfl
    rw [hquiet, step_running_of_free h, step_running_of_free (session.cancelledBy_quiet due),
      quiet_afterAttempt]
    cases hcancels : attempt.cancels <;>
      simp [endOfAttempt, hcancels, Attempt.quiet, Session.quiet, Session.cancel]

end Steps

section Ends

variable (attempt : Attempt ε α) (due : Nat) (overflows : Bool) (session : Session τ)

theorem now_endOfAttempt : (endOfAttempt attempt due overflows session).now = due := by
  unfold endOfAttempt
  split <;> rfl

theorem state_endOfAttempt :
    (endOfAttempt attempt due overflows session).state = session.state := by
  unfold endOfAttempt
  split <;> rfl

theorem isCancelled_endOfAttempt (hcancels : attempt.cancels = true) :
    (endOfAttempt attempt due overflows session).isCancelled = true := by
  rw [endOfAttempt, if_pos hcancels]
  exact Session.isCancelled_cancel _

theorem cancelledAt_endOfAttempt (hcalm : attempt.cancels = false) :
    (endOfAttempt attempt due overflows session).cancelledAt = session.cancelledAt := by
  simp [endOfAttempt, hcalm]

end Ends

end Task

/-- Once cancelled, an operation ends before its first attempt. -/
theorem RetryPolicy.execute_of_isCancelled (policy : RetryPolicy) (retry : ε → Bool)
    (operation : Operation τ ε α) (session : Session τ) (h : session.isCancelled = true) :
    policy.execute retry operation session = (.error .cancelled, session) := by
  rw [execute, Task.run_step policy retry operation _ _ rfl, Task.step_of_cancelledBy_eq_some rfl
    (Session.cancelledBy_of_isCancelled h (Nat.le_refl _)), Task.run_ended]

end SearchStore
