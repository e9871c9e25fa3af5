import SearchStore.Proofs.Retry.Run

/-!
Operations whose first attempts are lost. An operation acts on a state of which
only a view counts: while attempts are left to lose, one fails in a way worth
another attempt and leaves the view alone; after that it has its effect. If fewer
attempts are lost than the policy allows, and nothing that the effect comes to
calls for a second attempt, then the whole operation comes to the effect.

Whether a second attempt falls due at all is seen under a policy of which no wait
can be measured: the session is then void exactly when it does.
-/

namespace SearchStore

variable {σ τ υ ε α : Type}

/-- An operation that has an effect on the view of a state once no attempts are
left to lose. -/
structure Delivers (retry : ε → Bool) (operation : Operation τ ε α) (view : τ → σ)
    (left : τ → Nat) (effect : σ → Except ε α × σ) : Prop where
  not_cancels : ∀ n now state, (operation n now state).1.cancels = false
  lost : ∀ n now state, 0 < left state →
    (∃ error, (operation n now state).1.outcome = .error error ∧ retry error = true) ∧
      view (operation n now state).2 = view state ∧ left (operation n now state).2 < left state
  delivered : ∀ n now state, left state = 0 →
    (operation n now state).1.outcome = (effect (view state)).1 ∧
      view (operation n now state).2 = (effect (view state)).2

theorem Session.cancelledBy_eq_none {session : Session τ} (h : session.cancelledAt = none)
    (due : Nat) : session.cancelledBy due = none := by
  rw [cancelledBy, h]
  rfl

namespace Task

variable {policy : RetryPolicy} {retry : ε → Bool} {operation : Operation τ ε α} {due n : Nat}
  {session : Session τ}

/-- The start of an attempt before which cancellation does not fire. -/
theorem step_starting_of_free (h : session.cancelledBy due = none) :
    step policy retry operation ⟨due, .starting n⟩ session =
      (⟨due + min (operation n due session.state).1.duration longestSleep,
        .running n (operation n due session.state).1⟩,
        { session with now := due, state := (operation n due session.state).2 }) := by
  simp [step, h]

/-- The session after the end of an attempt, by whether a wait that is due cannot be
measured. -/
def endOfAttempt (attempt : Attempt ε α) (due : Nat) (overflows : Bool) (session : Session τ) :
    Session τ :=
  let later := { session with now := due, overflowed := session.overflowed || overflows }
  if attempt.cancels then later.cancel else later

/-- The end of an attempt before which cancellation does not fire. -/
theorem step_running_of_free (h : session.cancelledBy due = none) (attempt : Attempt ε α) :
    step policy retry operation ⟨due, .running n attempt⟩ session =
      (afterAttempt policy retry n due attempt.outcome,
        endOfAttempt attempt due
          (policy.triesAgain retry n attempt.outcome && (policy.delayAfter? n).isNone)
          session) := by
  simp [step, h, endOfAttempt]

def IsCalm (task : Task ε α) : Prop :=
  ∀ n attempt, task.stage = .running n attempt → attempt.cancels = false

variable (h : session.cancelledAt = none)
include h

/-- The start of an attempt where nothing is cancelled. -/
theorem step_starting :
    step policy retry operation ⟨due, .starting n⟩ session =
      (⟨due + min (operation n due session.state).1.duration longestSleep,
        .running n (operation n due session.state).1⟩,
        { session with now := due, state := (operation n due session.state).2 }) :=
  step_starting_of_free (session.cancelledBy_eq_none h due)

/-- The end of an attempt where nothing is cancelled. -/
theorem step_running {attempt : Attempt ε α} (hcalm : attempt.cancels = false) :
    step policy retry operation ⟨due, .running n attempt⟩ session =
      (afterAttempt policy retry n due attempt.outcome,
        { session with
          now := due
          overflowed := session.overflowed ||
            (policy.triesAgain retry n attempt.outcome && (policy.delayAfter? n).isNone) }) := by
  rw [step_running_of_free (session.cancelledBy_eq_none h due), endOfAttempt, hcalm]
  rfl

variable (policy) (retry) in
/-- A step of an operation of which no attempt cancels. -/
theorem isCalm_step (hcalm : ∀ n now state, (operation n now state).1.cancels = false)
    {task : Task ε α} (htask : task.IsCalm) :
    (task.step policy retry operation session).2.cancelledAt = none ∧
      (task.step policy retry operation session).1.IsCalm := by
  obtain ⟨due, stage⟩ := task
  cases stage with
  | ended result => exact ⟨h, htask⟩
  | starting n =>
    rw [step_starting h]
    refine ⟨h, ?_⟩
    intro _ _ hstage
    cases hstage
    exact hcalm n due session.state
  | running n attempt =>
    rw [step_running h (htask n attempt rfl)]
    refine ⟨h, ?_⟩
    intro m next hstage
    unfold afterAttempt at hstage
    split at hstage <;> cases hstage

end Task

namespace RetryPolicy

variable {policy : RetryPolicy} {retry : ε → Bool}

/-- An outcome that calls for no second attempt calls for no later one. -/
theorem triesAgain_eq_false {n : Nat} (hn : 0 < n) {outcome : Except ε α}
    (h : policy.triesAgain retry 1 outcome = false) :
    policy.triesAgain retry n outcome = false := by
  cases outcome with
  | ok a => rfl
  | error error =>
    simp only [triesAgain, Bool.and_eq_false_iff, decide_eq_false_iff_not] at h ⊢
    exact h.imp_left fun hlast => by omega

theorem triesAgain_of_nextDelay?_eq_some {n delay : Nat} {outcome : Except ε α}
    (h : policy.nextDelay? retry n outcome = some delay) :
    policy.triesAgain retry n outcome = true := by
  unfold nextDelay? at h
  split at h
  · assumption
  · cases h

/-- Where all waits can be measured, an error that is worth another attempt is the last
one only when the attempts are used up. -/
theorem maxAttempts_le_of_last {n : Nat} {outcome : Except ε α} {error : ε}
    (hmeasurable : policy.IsMeasurable) (houtcome : outcome = .error error)
    (hretry : retry error = true) (hlast : policy.nextDelay? retry n outcome = none) :
    policy.maxAttempts ≤ n := by
  apply Nat.le_of_not_lt
  intro hbound
  have htries : policy.triesAgain retry n outcome = true := by
    simp [houtcome, triesAgain, hbound, hretry]
  rw [nextDelay?, if_pos htries] at hlast
  have hwaits := hmeasurable n hbound
  rw [hlast] at hwaits
  cases hwaits

/-- The policy of which no wait can be measured. -/
def unwaiting (policy : RetryPolicy) : RetryPolicy :=
  { policy with delayUnit := Nat.pow 2 64 * 1000 }

theorem delayAfter?_unwaiting {n : Nat} (hn : 0 < n) : policy.unwaiting.delayAfter? n = none := by
  have hle : Nat.pow 2 64 * 1000 ≤ Nat.pow 2 64 * 1000 * n := Nat.le_mul_of_pos_right _ hn
  rw [delayAfter?, if_neg]
  exact Nat.not_lt.mpr hle

/-- A first attempt that succeeds is the whole operation. -/
theorem execute_of_ok (policy : RetryPolicy) (retry : ε → Bool) {operation : Operation τ ε α}
    {session : Session τ} {a : α} (h : session.cancelledAt = none)
    (hcalm : (operation 1 session.now session.state).1.cancels = false)
    (hok : (operation 1 session.now session.state).1.outcome = .ok a) :
    policy.execute retry operation session =
      (.ok a, { session with
        now := session.now + min (operation 1 session.now session.state).1.duration longestSleep
        state := (operation 1 session.now session.state).2 }) := by
  have hnext : policy.nextDelay? retry 1 (.ok a : Except ε α) = none := rfl
  have htries : policy.triesAgain retry 1 (.ok a : Except ε α) = false := rfl
  have hlater (now : Nat) (state : τ) :
      ({ session with now, state } : Session τ).cancelledAt = none := h
  rw [execute, Task.run_step _ _ _ _ _ rfl, Task.startingAt, Task.step_starting h,
    Task.run_step _ _ _ _ _ rfl, Task.step_running (hlater _ _) hcalm, hok, Task.afterAttempt,
    hnext, Task.run_ended, htries, Bool.false_and, Bool.or_false]
  rfl

section Calm

variable {operation : Operation τ ε α}
  (hcalm : ∀ n now state, (operation n now state).1.cancels = false)
include hcalm

/-- Attempts that do not cancel leave a session uncancelled. -/
theorem cancelledAt_execute (policy : RetryPolicy) (retry : ε → Bool) (session : Session τ)
    (h : session.cancelledAt = none) :
    (policy.execute retry operation session).2.cancelledAt = none := by
  obtain ⟨_, hended, -⟩ := Task.run_invariant policy retry operation
    (P := fun task later => later.cancelledAt = none ∧ task.IsCalm)
    (fun _ _ hknown => Task.isCalm_step policy retry hknown.1 hcalm hknown.2)
    (Task.startingAt session.now) session ⟨h, nofun⟩
  exact hended

/-- An operation ends as cancelled only in a session that is. -/
theorem execute_ne_cancelled (policy : RetryPolicy) (retry : ε → Bool) (session : Session τ)
    (h : session.cancelledAt = none) :
    (policy.execute retry operation session).1 ≠ .error .cancelled := by
  intro hcancelled
  obtain ⟨instant, hfired, -⟩ := (Session.isCancelled_iff _).mp
    (isCancelled_of_execute_eq _ _ _ _ hcancelled)
  rw [cancelledAt_execute hcalm policy retry session h] at hfired
  cases hfired

/-- Under a policy of which no wait can be measured there is one attempt. -/
theorem execute_unwaiting (policy : RetryPolicy) (retry : ε → Bool) (session : Session τ)
    (h : session.cancelledAt = none) :
    (policy.unwaiting.execute retry operation session).1 =
        (operation 1 session.now session.state).1.outcome.mapError .failed ∧
      (policy.unwaiting.execute retry operation session).2.state =
        (operation 1 session.now session.state).2 ∧
      (policy.unwaiting.execute retry operation session).2.overflowed =
        (session.overflowed ||
          policy.triesAgain retry 1 (operation 1 session.now session.state).1.outcome) := by
  have hwait : policy.unwaiting.delayAfter? 1 = none := delayAfter?_unwaiting Nat.one_pos
  have hnext (outcome : Except ε α) : policy.unwaiting.nextDelay? retry 1 outcome = none := by
    simp [nextDelay?, hwait]
  have hlater (now : Nat) (state : τ) :
      ({ session with now, state } : Session τ).cancelledAt = none := h
  rw [execute, Task.run_step _ _ _ _ _ rfl, Task.startingAt, Task.step_starting h,
    Task.run_step _ _ _ _ _ rfl, Task.step_running (hlater _ _) (hcalm _ _ _), Task.afterAttempt,
    hnext, Task.run_ended, hwait, Option.isNone_none, Bool.and_true]
  exact ⟨rfl, rfl, rfl⟩

end Calm

/-- Lost attempts are made up for. -/
theorem execute_delivers {operation : Operation τ ε α} {view : τ → σ} {left : τ → Nat}
    {effect : σ → Except ε α × σ} (hdelivers : Delivers retry operation view left effect)
    (hmeasurable : policy.IsMeasurable) (session : Session τ) (h : session.cancelledAt = none)
    (hleft : left session.state < policy.maxAttempts)
    (honce : policy.triesAgain retry 1 (effect (view session.state)).1 = false) :
    (policy.execute retry operation session).1 =
        (effect (view session.state)).1.mapError .failed ∧
      view (policy.execute retry operation session).2.state =
        (effect (view session.state)).2 := by
  have hkeeps : Task.AttemptInvariant policy retry operation
      (fun n state => 0 < n ∧ view state = view session.state ∧
        n + left state ≤ policy.maxAttempts)
      (fun result state => result = .error .cancelled ∨
        result = (effect (view session.state)).1.mapError .failed ∧
          view state = (effect (view session.state)).2) := {
    cancelled := fun _ _ _ => .inl rfl
    interrupted := fun _ _ _ _ => .inl rfl
    stopped := by
      rintro n now state - ⟨-, hview, hbound⟩ hlast
      rcases Nat.eq_zero_or_pos (left state) with hnone | hsome
      · obtain ⟨houtcome, hstate⟩ := hdelivers.delivered n now state hnone
        exact .inr ⟨by rw [houtcome, hview], by rw [hstate, hview]⟩
      · -- An attempt was lost, and another one is allowed.
        obtain ⟨⟨error, houtcome, hretry⟩, -⟩ := hdelivers.lost n now state hsome
        have hused := maxAttempts_le_of_last hmeasurable houtcome hretry hlast
        omega
    retried := by
      rintro n now state delay ⟨hpos, hview, hbound⟩ hdelay
      rcases Nat.eq_zero_or_pos (left state) with hnone | hsome
      · -- What the effect comes to does not call for another attempt.
        obtain ⟨houtcome, -⟩ := hdelivers.delivered n now state hnone
        have htries := triesAgain_of_nextDelay?_eq_some hdelay
        rw [houtcome, hview, triesAgain_eq_false hpos honce] at htries
        cases htries
      · obtain ⟨-, hsame, hless⟩ := hdelivers.lost n now state hsome
        exact ⟨by omega, hsame.trans hview, by omega⟩ }
  have hended := execute_induction hkeeps session ⟨Nat.one_pos, rfl, by omega⟩
  exact hended.resolve_left (execute_ne_cancelled hdelivers.not_cancels policy retry session h)

/-- What a first attempt comes to without any losses is what comes of the operation
in spite of them, unless it calls for a second attempt. -/
theorem execute_masks {plain : Operation σ ε α} {lossy : Operation τ ε α} {of : σ → υ}
    {view : τ → υ} {left : τ → Nat} {effect : υ → Except ε α × υ}
    (hplain : Delivers retry plain of (fun _ => 0) effect)
    (hlossy : Delivers retry lossy view left effect) (hmeasurable : policy.IsMeasurable)
    (session : Session σ) (later : Session τ) (hsession : session.cancelledAt = none)
    (hlater : later.cancelledAt = none) (hleft : left later.state < policy.maxAttempts)
    (hsame : view later.state = of session.state) :
    (policy.unwaiting.execute retry plain session).2.overflowed = true ∨
      (policy.execute retry lossy later).1 = (policy.unwaiting.execute retry plain session).1 ∧
        view (policy.execute retry lossy later).2.state =
          of (policy.unwaiting.execute retry plain session).2.state := by
  obtain ⟨hresult, hstate, hvoid⟩ :=
    execute_unwaiting hplain.not_cancels policy retry session hsession
  obtain ⟨houtcome, hof⟩ := hplain.delivered 1 session.now session.state rfl
  rw [houtcome] at hresult hvoid
  cases honce : policy.triesAgain retry 1 (effect (of session.state)).1 with
  | true =>
    left
    rw [hvoid, honce, Bool.or_true]
  | false =>
    right
    rw [← hsame] at honce
    obtain ⟨hsameResult, hview⟩ := execute_delivers hlossy hmeasurable later hlater hleft honce
    rw [hsameResult, hview, hresult, hstate, hof, hsame]
    exact ⟨rfl, rfl⟩

end RetryPolicy

end SearchStore
