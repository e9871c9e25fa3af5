import SearchStore.Retry.Basic

/-!
Runs of retried operations. What every step of a task keeps holds when the task
has ended. From this come the facts about sessions: the clock only goes forward,
a cancellation that has fired stays fired, an operation ends as cancelled only
when one has fired, and no wait overflows when all of them can be measured. For
the state around an operation it is enough to look at one attempt at a time.
-/

namespace SearchStore

namespace Session

variable {σ τ : Type}

theorem isCancelled_iff (session : Session σ) :
    session.isCancelled = true ↔
      ∃ instant, session.cancelledAt = some instant ∧ instant ≤ session.now := by
  unfold isCancelled
  cases session.cancelledAt with
  | none => simp
  | some instant => simp

/-- A cancellation that has fired stays fired while time goes on. -/
theorem isCancelled_of_le (session : Session σ) (later : Session τ)
    (hsame : later.cancelledAt = session.cancelledAt) (hle : session.now ≤ later.now)
    (h : session.isCancelled = true) : later.isCancelled = true := by
  obtain ⟨instant, hinstant, hfired⟩ := (isCancelled_iff session).mp h
  exact (isCancelled_iff later).mpr ⟨instant, hsame.trans hinstant, Nat.le_trans hfired hle⟩

theorem isCancelled_cancel (session : Session σ) : session.cancel.isCancelled = true :=
  (isCancelled_iff _).mpr ⟨_, rfl, Nat.min_le_right _ _⟩

theorem cancelledBy_eq_some {session : Session σ} {due instant : Nat}
    (h : session.cancelledBy due = some instant) :
    session.now ≤ instant ∧ ∃ fired, session.cancelledAt = some fired ∧ fired ≤ instant := by
  unfold cancelledBy at h
  obtain ⟨fired, hfilter, rfl⟩ := Option.map_eq_some_iff.mp h
  exact ⟨Nat.le_max_left _ _, fired, (Option.filter_eq_some_iff.mp hfilter).1, Nat.le_max_right _ _⟩

end Session

/-- Whether every wait that the policy may ask for can be measured. -/
def RetryPolicy.IsMeasurable (policy : RetryPolicy) : Prop :=
  ∀ n < policy.maxAttempts, (policy.delayAfter? n).isSome

/-- The waits between attempts whose number has 64 bits can be measured. -/
theorem RetryPolicy.isMeasurable_ofAttempts {attempts : Nat} (h : attempts ≤ Nat.pow 2 64) :
    (RetryPolicy.ofAttempts attempts).IsMeasurable := by
  intro n hn
  have hpos : 0 < Nat.pow 2 64 := by decide
  have hlt : n < Nat.pow 2 64 := by
    simp only [ofAttempts] at hn
    omega
  have hwait : (RetryPolicy.ofAttempts attempts).delayAfter n < Nat.pow 2 64 * 1000 := by
    simp only [delayAfter, ofAttempts]
    omega
  rw [delayAfter?, if_pos hwait]
  rfl

namespace Task

variable {σ ε α : Type}

section Steps

variable (policy : RetryPolicy) (retry : ε → Bool) (operation : Operation σ ε α)

theorem run_ended (due : Nat) (result : Except (RetryFailure ε) α) (session : Session σ) :
    run policy retry operation ⟨due, .ended result⟩ session = (result, session) := by
  rw [run]
  rfl

/-- An operation with a result has ended. -/
theorem eq_of_result?_eq_some {task : Task ε α} {result : Except (RetryFailure ε) α}
    (h : task.result? = some result) : task = ⟨task.due, .ended result⟩ := by
  obtain ⟨due, stage⟩ := task
  cases stage with
  | ended result' =>
    cases h
    rfl
  | starting n => cases h
  | running n attempt => cases h

theorem step_of_result?_eq_some {task : Task ε α} {result : Except (RetryFailure ε) α}
    (h : task.result? = some result) (session : Session σ) :
    task.step policy retry operation session = (task, session) := by
  rw [eq_of_result?_eq_some h]
  rfl

theorem run_of_result?_eq_some {task : Task ε α} {result : Except (RetryFailure ε) α}
    (h : task.result? = some result) (session : Session σ) :
    task.run policy retry operation session = (result, session) := by
  rw [eq_of_result?_eq_some h, run_ended]

theorem run_step (task : Task ε α) (session : Session σ) (h : task.result? = none) :
    run policy retry operation task session =
      run policy retry operation (task.step policy retry operation session).1
        (task.step policy retry operation session).2 := by
  rw [run]
  split
  · next result hsome => simp [h] at hsome
  · rfl

/-- What every step keeps holds at the end of a run. -/
theorem run_invariant {P : Task ε α → Session σ → Prop}
    (hstep : ∀ task session, P task session →
      P (task.step policy retry operation session).1 (task.step policy retry operation session).2)
    (task : Task ε α) (session : Session σ) (h : P task session) :
    ∃ due, P ⟨due, .ended (task.run policy retry operation session).1⟩
      (task.run policy retry operation session).2 := by
  induction task, session using run.induct policy retry operation with
  | case1 task session result hresult =>
    rw [run_of_result?_eq_some policy retry operation hresult]
    rw [eq_of_result?_eq_some hresult] at h
    exact ⟨task.due, h⟩
  | case2 task session hresult next hless ih =>
    rw [run_step policy retry operation task session hresult]
    exact ih (hstep task session h)

/-- An invariant of the state over the attempts of an operation. What is known
before an attempt is either carried to the next one or decides the end; besides,
the operation may end as cancelled before an attempt or in the middle of one. -/
structure AttemptInvariant (attempting : Nat → σ → Prop)
    (ended : Except (RetryFailure ε) α → σ → Prop) : Prop where
  cancelled : ∀ n state, attempting n state → ended (.error .cancelled) state
  interrupted : ∀ n now state, attempting n state →
    ended (.error .cancelled) (operation n now state).2
  stopped : ∀ n now state, n ≤ policy.maxAttempts → attempting n state →
    policy.nextDelay? retry n (operation n now state).1.outcome = none →
    ended ((operation n now state).1.outcome.mapError .failed) (operation n now state).2
  retried : ∀ n now state delay, attempting n state →
    policy.nextDelay? retry n (operation n now state).1.outcome = some delay →
    attempting (n + 1) (operation n now state).2

def StateKnown (attempting : Nat → σ → Prop) (ended : Except (RetryFailure ε) α → σ → Prop)
    (task : Task ε α) (session : Session σ) : Prop :=
  match task.stage with
  | .starting n => n ≤ policy.maxAttempts ∧ attempting n session.state
  | .running n attempt =>
    ∃ now state, n ≤ policy.maxAttempts ∧ attempting n state ∧
      operation n now state = (attempt, session.state)
  | .ended result => ended result session.state

variable {policy retry operation} in
theorem AttemptInvariant.step {attempting : Nat → σ → Prop}
    {ended : Except (RetryFailure ε) α → σ → Prop}
    (hkeeps : AttemptInvariant policy retry operation attempting ended)
    (task : Task ε α) (session : Session σ)
    (h : StateKnown policy operation attempting ended task session) :
    StateKnown policy operation attempting ended
      (task.step policy retry operation session).1
      (task.step policy retry operation session).2 := by
  obtain ⟨due, stage⟩ := task
  cases stage with
  | ended result => exact h
  | starting n =>
    obtain ⟨hle, hknown⟩ := h
    cases hfires : session.cancelledBy due with
    | some instant => simpa [Task.step, hfires, StateKnown] using hkeeps.cancelled n _ hknown
    | none =>
      simp only [Task.step, hfires, StateKnown]
      exact ⟨due, session.state, hle, hknown, rfl⟩
  | running n attempt =>
    obtain ⟨now, state, hle, hknown, hcall⟩ := h
    have hattempt : (operation n now state).1 = attempt := by rw [hcall]
    have hstate : (operation n now state).2 = session.state := by rw [hcall]
    cases hfires : session.cancelledBy due with
    | some instant =>
      have hcut := hkeeps.interrupted n now state hknown
      rw [hstate] at hcut
      simpa [Task.step, hfires, StateKnown] using hcut
    | none =>
      -- A cancellation by the attempt itself leaves the state alone.
      have hsame (s : Session σ) : (if attempt.cancels then s.cancel else s).state = s.state := by
        split <;> rfl
      cases hnext : policy.nextDelay? retry n attempt.outcome with
      | none =>
        have hstop := hkeeps.stopped n now state hle hknown (by rw [hattempt, hnext])
        rw [hattempt, hstate] at hstop
        simpa [Task.step, hfires, afterAttempt, hnext, StateKnown, hsame] using hstop
      | some delay =>
        have hagain := hkeeps.retried n now state delay hknown (by rw [hattempt, hnext])
        rw [hstate] at hagain
        have hlt := RetryPolicy.lt_of_nextDelay?_eq_some hnext
        simpa [Task.step, hfires, afterAttempt, hnext, StateKnown, hsame] using ⟨hlt, hagain⟩

/-- What is kept of the clock, the cancellation and the waits while an operation
goes on from a session. -/
structure SessionKept (session : Session σ) (task : Task ε α) (later : Session σ) : Prop where
  due_le : later.now ≤ task.due
  now_le : session.now ≤ later.now
  stays_cancelled : session.isCancelled = true → later.isCancelled = true
  cancelled_only : task.stage = .ended (.error .cancelled) → later.isCancelled = true
  overflowed_eq : policy.IsMeasurable → later.overflowed = session.overflowed

variable {policy} in
/-- Going on with the clock alone keeps all there is to keep. -/
theorem SessionKept.advance {session later : Session σ} {task next : Task ε α}
    {instant : Nat} (h : SessionKept policy session task later) (state : σ)
    (hle : later.now ≤ instant) (hdue : instant ≤ next.due)
    (hcancelled : next.stage = .ended (.error .cancelled) →
      ({ later with now := instant } : Session σ).isCancelled = true) :
    SessionKept policy session next { later with now := instant, state } where
  due_le := hdue
  now_le := Nat.le_trans h.now_le hle
  stays_cancelled hfired := Session.isCancelled_of_le later _ rfl hle (h.stays_cancelled hfired)
  cancelled_only := hcancelled
  overflowed_eq := h.overflowed_eq

theorem due_afterAttempt_ge (n now : Nat) (outcome : Except ε α) :
    now ≤ (afterAttempt policy retry n now outcome).due := by
  unfold afterAttempt
  split
  · exact Nat.le_add_right _ _
  · exact Nat.le_refl _

theorem stage_afterAttempt_ne_cancelled (n now : Nat) (outcome : Except ε α) :
    (afterAttempt policy retry n now outcome).stage ≠ .ended (.error .cancelled) := by
  unfold afterAttempt
  split
  · simp
  · cases outcome <;> exact nofun

theorem triesAgain_lt {n : Nat} {outcome : Except ε α}
    (h : policy.triesAgain retry n outcome = true) : n < policy.maxAttempts := by
  cases outcome with
  | ok a => simp [RetryPolicy.triesAgain] at h
  | error e =>
    simp only [RetryPolicy.triesAgain, Bool.and_eq_true, decide_eq_true_eq] at h
    exact h.1

/-- A wait that is due makes no session void if all waits can be measured. -/
theorem overflowed_step (hmeasurable : policy.IsMeasurable) (task : Task ε α)
    (session : Session σ) :
    (task.step policy retry operation session).2.overflowed = session.overflowed := by
  obtain ⟨due, stage⟩ := task
  cases stage with
  | ended result => rfl
  | starting n => cases hfires : session.cancelledBy due <;> simp [step, hfires]
  | running n attempt =>
    cases hfires : session.cancelledBy due with
    | some instant => simp [step, hfires]
    | none =>
      have hwait : (policy.triesAgain retry n attempt.outcome &&
          (policy.delayAfter? n).isNone) = false := by
        cases htries : policy.triesAgain retry n attempt.outcome with
        | false => rfl
        | true =>
          simpa using hmeasurable n (triesAgain_lt policy retry htries)
      cases hcancels : attempt.cancels <;> simp [step, hfires, hcancels, hwait, Session.cancel]

/-- A session gets void only with the failure of the last attempt. -/
theorem overflowed_step_or (task : Task ε α) (session : Session σ) :
    (task.step policy retry operation session).2.overflowed = session.overflowed ∨
      ∃ error, (task.step policy retry operation session).1.result? =
        some (.error (.failed error)) := by
  obtain ⟨due, stage⟩ := task
  cases stage with
  | ended result => exact .inl rfl
  | starting n => cases hfires : session.cancelledBy due <;> simp [step, hfires]
  | running n attempt =>
    cases hfires : session.cancelledBy due with
    | some instant => simp [step, hfires]
    | none =>
      cases hvoid : policy.triesAgain retry n attempt.outcome && (policy.delayAfter? n).isNone with
      | false =>
        left
        cases hcancels : attempt.cancels <;> simp [step, hfires, hcancels, hvoid, Session.cancel]
      | true =>
        obtain ⟨htries, hwait⟩ := Bool.and_eq_true_iff.mp hvoid
        have hnext : policy.nextDelay? retry n attempt.outcome = none := by
          rw [RetryPolicy.nextDelay?, if_pos htries, Option.isNone_iff_eq_none.mp hwait]
        cases houtcome : attempt.outcome with
        | ok a => simp [houtcome, RetryPolicy.triesAgain] at htries
        | error error =>
          rw [houtcome] at hnext
          have hafter : afterAttempt policy retry n due (.error error : Except ε α) =
              ⟨due, .ended (.error (.failed error))⟩ := by
            rw [afterAttempt, hnext]
            rfl
          exact .inr ⟨error, by simp [step, hfires, houtcome, hafter, result?]⟩

/-- A session that is void stays so. -/
theorem overflowed_step_of_overflowed (task : Task ε α) (session : Session σ)
    (h : session.overflowed = true) :
    (task.step policy retry operation session).2.overflowed = true := by
  obtain ⟨due, stage⟩ := task
  cases stage with
  | ended result => exact h
  | starting n => cases hfires : session.cancelledBy due <;> simpa [step, hfires] using h
  | running n attempt =>
    cases hfires : session.cancelledBy due with
    | some instant => simpa [step, hfires] using h
    | none =>
      cases hcancels : attempt.cancels <;> simp [step, hfires, hcancels, h, Session.cancel]

theorem step_sessionKept (session : Session σ) (task : Task ε α) (later : Session σ)
    (h : SessionKept policy session task later) :
    SessionKept policy session (task.step policy retry operation later).1
      (task.step policy retry operation later).2 := by
  obtain ⟨due, stage⟩ := task
  have hdue : later.now ≤ due := h.due_le
  have hfired {instant : Nat} (hfires : later.cancelledBy due = some instant) :
      SessionKept policy session (⟨instant, .ended (.error .cancelled)⟩ : Task ε α)
        { later with now := instant } := by
    obtain ⟨hle, fired, hat, hpast⟩ := Session.cancelledBy_eq_some hfires
    exact h.advance later.state hle (Nat.le_refl _)
      fun _ => (Session.isCancelled_iff _).mpr ⟨fired, hat, hpast⟩
  cases stage with
  | ended result => exact h
  | starting n =>
    cases hfires : later.cancelledBy due with
    | some instant => simpa [step, hfires] using hfired hfires
    | none =>
      simp only [step, hfires]
      exact h.advance _ hdue (Nat.le_add_right _ _) (by simp)
  | running n attempt =>
    cases hfires : later.cancelledBy due with
    | some instant => simpa [step, hfires] using hfired hfires
    | none =>
      have hkept : SessionKept policy session (afterAttempt policy retry n due attempt.outcome)
          { later with now := due } :=
        h.advance later.state hdue (due_afterAttempt_ge policy retry n due _)
          fun hstage => absurd hstage (stage_afterAttempt_ne_cancelled policy retry n due _)
      have hmeasured (hall : policy.IsMeasurable) :=
        (overflowed_step policy retry operation hall ⟨due, .running n attempt⟩ later).trans
          (h.overflowed_eq hall)
      simp only [step, hfires] at hmeasured ⊢
      cases hcancels : attempt.cancels with
      | false =>
        rw [hcancels] at hmeasured
        exact { hkept with overflowed_eq := hmeasured }
      | true =>
        rw [hcancels] at hmeasured
        exact { hkept with
          stays_cancelled := fun _ => Session.isCancelled_cancel _
          cancelled_only := fun _ => Session.isCancelled_cancel _
          overflowed_eq := hmeasured }

end Steps

end Task

namespace RetryPolicy

variable {σ ε α : Type}

/-- Induction over the attempts of a retried operation. -/
theorem execute_induction {policy : RetryPolicy} {retry : ε → Bool} {operation : Operation σ ε α}
    {attempting : Nat → σ → Prop} {ended : Except (RetryFailure ε) α → σ → Prop}
    (hkeeps : Task.AttemptInvariant policy retry operation attempting ended)
    (session : Session σ) (hstart : attempting 1 session.state) :
    ended (policy.execute retry operation session).1
      (policy.execute retry operation session).2.state := by
  obtain ⟨_, hended⟩ := Task.run_invariant policy retry operation hkeeps.step
    (Task.startingAt session.now) session ⟨policy.maxAttempts_pos, hstart⟩
  exact hended

/-- Only a failed attempt is followed by another one. -/
theorem exists_error_of_nextDelay?_eq_some {policy : RetryPolicy} {retry : ε → Bool}
    {n delay : Nat} {outcome : Except ε α}
    (h : policy.nextDelay? retry n outcome = some delay) :
    ∃ error, outcome = .error error ∧ retry error = true := by
  cases outcome with
  | ok a => simp [nextDelay?, triesAgain] at h
  | error e =>
    cases hretry : retry e with
    | true => exact ⟨e, rfl, hretry⟩
    | false => simp [nextDelay?, triesAgain, hretry] at h

section Attempts

variable (policy : RetryPolicy) (retry : ε → Bool) (operation : Operation σ ε α)

/-- The attempts of an operation that failed and were not the last: the states
before each of them, in order, and the state that they led to. -/
inductive Attempts (initial : σ) : List σ → σ → Prop
  | start : Attempts initial [] initial
  | retried {visited : List σ} {state : σ} {delay : Nat} (now : Nat)
      (hvisited : Attempts initial visited state)
      (hdelay : policy.nextDelay? retry (visited.length + 1)
        (operation (visited.length + 1) now state).1.outcome = some delay) :
      Attempts initial (visited ++ [state]) (operation (visited.length + 1) now state).2

/-- The end of an operation that was not cancelled: some attempts that failed,
and one after which no other was due. -/
structure Completed (initial : σ) (result : Except (RetryFailure ε) α) (final : σ)
    (visited : List σ) (state : σ) (now : Nat) : Prop where
  attempts : Attempts policy retry operation initial visited state
  length_lt : visited.length < policy.maxAttempts
  last : policy.nextDelay? retry (visited.length + 1)
    (operation (visited.length + 1) now state).1.outcome = none
  result_eq : result =
    (operation (visited.length + 1) now state).1.outcome.mapError .failed
  final_eq : final = (operation (visited.length + 1) now state).2

/-- An operation is cancelled, or it is completed attempt by attempt. -/
theorem execute_completed (session : Session σ) :
    (policy.execute retry operation session).1 = .error .cancelled ∨
      ∃ visited state now, Completed policy retry operation session.state
        (policy.execute retry operation session).1 (policy.execute retry operation session).2.state
        visited state now := by
  have hkeeps : Task.AttemptInvariant policy retry operation
      (fun n state => ∃ visited, n = visited.length + 1 ∧
        Attempts policy retry operation session.state visited state)
      (fun result final => result = .error .cancelled ∨ ∃ visited state now,
        Completed policy retry operation session.state result final visited state now) := {
    cancelled := fun _ _ _ => .inl rfl
    interrupted := fun _ _ _ _ => .inl rfl
    stopped := by
      rintro n now state hle ⟨visited, rfl, hattempts⟩ hlast
      exact .inr ⟨visited, state, now, hattempts, hle, hlast, rfl, rfl⟩
    retried := by
      rintro n now state delay ⟨visited, rfl, hattempts⟩ hdelay
      exact ⟨visited ++ [state], by simp, .retried now hattempts hdelay⟩ }
  exact execute_induction hkeeps session ⟨[], rfl, .start⟩

end Attempts

theorem execute_sessionKept (policy : RetryPolicy) (retry : ε → Bool)
    (operation : Operation σ ε α) (session : Session σ) :
    ∃ due, Task.SessionKept policy session
      (⟨due, .ended (policy.execute retry operation session).1⟩ : Task ε α)
      (policy.execute retry operation session).2 := by
  apply Task.run_invariant policy retry operation
    (Task.step_sessionKept policy retry operation session)
  exact {
    due_le := Nat.le_refl _
    now_le := Nat.le_refl _
    stays_cancelled := id
    cancelled_only := by simp [Task.startingAt]
    overflowed_eq := fun _ => rfl }

/-- A cancellation that has fired before an operation has fired after it. -/
theorem isCancelled_execute (policy : RetryPolicy) (retry : ε → Bool)
    (operation : Operation σ ε α) (session : Session σ) (h : session.isCancelled = true) :
    (policy.execute retry operation session).2.isCancelled = true := by
  obtain ⟨_, hkept⟩ := execute_sessionKept policy retry operation session
  exact hkept.stays_cancelled h

/-- An operation ends as cancelled only when cancellation has fired. -/
theorem isCancelled_of_execute_eq (policy : RetryPolicy) (retry : ε → Bool)
    (operation : Operation σ ε α) (session : Session σ)
    (h : (policy.execute retry operation session).1 = .error .cancelled) :
    (policy.execute retry operation session).2.isCancelled = true := by
  obtain ⟨_, hkept⟩ := execute_sessionKept policy retry operation session
  exact hkept.cancelled_only (by rw [h])

theorem overflowed_execute {policy : RetryPolicy} (hpolicy : policy.IsMeasurable)
    (retry : ε → Bool) (operation : Operation σ ε α) (session : Session σ) :
    (policy.execute retry operation session).2.overflowed = session.overflowed := by
  obtain ⟨_, hkept⟩ := execute_sessionKept policy retry operation session
  exact hkept.overflowed_eq hpolicy

/-- An operation makes a session void only with the failure of its last attempt. -/
theorem overflowed_execute_or (policy : RetryPolicy) (retry : ε → Bool)
    (operation : Operation σ ε α) (session : Session σ) :
    (policy.execute retry operation session).2.overflowed = session.overflowed ∨
      ∃ error, (policy.execute retry operation session).1 = .error (.failed error) := by
  have hstep (task : Task ε α) (later : Session σ)
      (h : later.overflowed = session.overflowed ∨
        ∃ error, task.result? = some (.error (.failed error))) :
      (task.step policy retry operation later).2.overflowed = session.overflowed ∨
        ∃ error, (task.step policy retry operation later).1.result? =
          some (.error (.failed error)) := by
    rcases h with hvalid | ⟨error, hfailed⟩
    · rw [← hvalid]
      exact Task.overflowed_step_or policy retry operation task later
    · rw [Task.step_of_result?_eq_some policy retry operation hfailed]
      exact .inr ⟨error, hfailed⟩
  obtain ⟨_, hvalid | ⟨error, hfailed⟩⟩ := Task.run_invariant policy retry operation hstep
    (Task.startingAt session.now) session (.inl rfl)
  · exact .inl hvalid
  · exact .inr ⟨error, Option.some.inj hfailed⟩

theorem overflowed_execute_of_overflowed (policy : RetryPolicy) (retry : ε → Bool)
    (operation : Operation σ ε α) (session : Session σ) (h : session.overflowed = true) :
    (policy.execute retry operation session).2.overflowed = true := by
  obtain ⟨_, hended⟩ := Task.run_invariant policy retry operation
    (Task.overflowed_step_of_overflowed policy retry operation)
    (Task.startingAt session.now) session h
  exact hended

end RetryPolicy

end SearchStore
