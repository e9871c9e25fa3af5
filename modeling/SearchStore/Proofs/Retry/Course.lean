import SearchStore.Proofs.Retry.Quiet
import SearchStore.Retry.Script

/-!
The course of a retried operation that is not cancelled. Its first attempt starts at
once, each later one a wait after the one before it has ended. The last attempt is the
first one that is not worth another, or the last one that is allowed; with it the
operation ends, and comes to what the attempt came to.

The wait after an attempt is the one that is asked for, or the longest sleep if that is
shorter.
-/

namespace SearchStore

variable {σ τ ε α : Type}

structure Standpoint (σ : Type) where
  now : Nat
  state : σ

def Session.standpoint (session : Session σ) : Standpoint σ := ⟨session.now, session.state⟩

namespace Operation

variable (operation : Operation σ ε α)

def attemptAt (number : Nat) (point : Standpoint σ) : Attempt ε α :=
  (operation number point.now point.state).1

def finish (number : Nat) (point : Standpoint σ) : Standpoint σ where
  now := point.now + min (operation.attemptAt number point).duration longestSleep
  state := (operation number point.now point.state).2

section Starts

variable (wait : Nat → Nat) (first : Standpoint σ)

def startAfter : Nat → Standpoint σ
  | 0 => first
  | failed + 1 =>
    let ended := operation.finish (failed + 1) (startAfter failed)
    { ended with now := ended.now + wait (failed + 1) }

def outcomeAfter (failed : Nat) : Except ε α :=
  (operation.attemptAt (failed + 1) (operation.startAfter wait first failed)).outcome

end Starts

end Operation

namespace RetryPolicy

def waitAfter (policy : RetryPolicy) (attempt : Nat) : Nat :=
  min (policy.delayAfter attempt) longestSleep

/-- The attempt after some that failed is the last one: these were all worth another
attempt, and it is not, or there is none left. -/
structure IsLastAfter (policy : RetryPolicy) (retry : ε → Bool) (outcome : Nat → Except ε α)
    (failed : Nat) : Prop where
  lt : failed < policy.maxAttempts
  retried : ∀ k < failed, ∃ error, outcome k = .error error ∧ retry error = true
  last : failed + 1 = policy.maxAttempts ∨
    ∀ error, outcome failed = .error error → retry error = false

structure Course (policy : RetryPolicy) (retry : ε → Bool) (operation : Operation σ ε α)
    (wait : Nat → Nat) (session : Session σ) (failed : Nat)
    (result : Except (RetryFailure ε) α) (final : Session σ) : Prop where
  isLast : policy.IsLastAfter retry (operation.outcomeAfter wait session.standpoint) failed
  result_eq : result = (operation.outcomeAfter wait session.standpoint failed).mapError .failed
  final_eq : final =
    let ended := operation.finish (failed + 1)
      (operation.startAfter wait session.standpoint failed)
    { session with now := ended.now, state := ended.state }

namespace IsLastAfter

variable {policy : RetryPolicy} {retry : ε → Bool} {outcome : Nat → Except ε α} {failed k : Nat}

/-- While attempts are left, one is followed by another exactly when it failed in a way
worth another attempt. -/
theorem followed_iff (h : policy.IsLastAfter retry outcome failed) (hk : k ≤ failed)
    (hleft : k + 1 < policy.maxAttempts) :
    k < failed ↔ ∃ error, outcome k = .error error ∧ retry error = true := by
  constructor
  · exact h.retried k
  · rintro ⟨error, houtcome, hretry⟩
    apply Nat.lt_of_le_of_ne hk
    rintro rfl
    rcases h.last with hused | hrefused
    · omega
    · simp [hrefused error houtcome] at hretry

/-- Of the attempts that were made, one with attempts left is followed by another exactly
when it failed in a way worth another. -/
theorem followed_map_iff {β : Type} {made : Nat → β} {attempt : β}
    (h : policy.IsLastAfter retry outcome failed)
    (hattempt : ((List.range (failed + 1)).map made)[k]? = some attempt)
    (hleft : k + 1 < policy.maxAttempts) :
    made k = attempt ∧ (k + 1 < ((List.range (failed + 1)).map made).length ↔
      ∃ error, outcome k = .error error ∧ retry error = true) := by
  rw [List.getElem?_map, Option.map_eq_some_iff] at hattempt
  obtain ⟨number, hnumber, hmade⟩ := hattempt
  obtain ⟨hk, rfl⟩ := List.getElem?_eq_some_iff.mp hnumber
  rw [List.length_range] at hk
  rw [List.getElem_range] at hmade
  rw [List.length_map, List.length_range, ← h.followed_iff (Nat.le_of_lt_succ hk) hleft]
  exact ⟨hmade, Nat.succ_lt_succ_iff⟩

/-- Only one attempt is the last one. -/
theorem eq {other : Nat} (h : policy.IsLastAfter retry outcome failed)
    (hother : policy.IsLastAfter retry outcome other) : failed = other := by
  have hle {first second : Nat} (hfirst : policy.IsLastAfter retry outcome first)
      (hsecond : policy.IsLastAfter retry outcome second) : second ≤ first := by
    apply Nat.le_of_not_lt
    intro hlt
    have hbound := hsecond.lt
    exact absurd ((hfirst.followed_iff (Nat.le_refl _) (by omega)).mpr
      (hsecond.retried first hlt)) (Nat.lt_irrefl _)
  exact Nat.le_antisymm (hle hother h) (hle h hother)

end IsLastAfter

theorem delay_of_nextDelay?_eq_some {policy : RetryPolicy} {retry : ε → Bool} {n delay : Nat}
    {outcome : Except ε α} (h : policy.nextDelay? retry n outcome = some delay) :
    delay = policy.delayAfter n := by
  rw [nextDelay?, if_pos (triesAgain_of_nextDelay?_eq_some h), delayAfter?] at h
  split at h
  · exact (Option.some.inj h).symm
  · cases h

end RetryPolicy

namespace Task

section Steps

variable (policy : RetryPolicy) (retry : ε → Bool) (operation : Operation σ ε α)
  (session : Session σ)

/-- All attempts so far failed in a way worth another one, and one is left. -/
def Retried (failed : Nat) : Prop :=
  failed < policy.maxAttempts ∧ ∀ k < failed, ∃ error,
    operation.outcomeAfter policy.waitAfter session.standpoint k = .error error ∧
      retry error = true

def StandsOnCourse (task : Task ε α) (later : Session σ) : Prop :=
  match task.stage with
  | .starting n => ∃ failed, n = failed + 1 ∧ Retried policy retry operation session failed ∧
    ⟨task.due, later.state⟩ = operation.startAfter policy.waitAfter session.standpoint failed
  | .running n attempt => ∃ failed, n = failed + 1 ∧
    Retried policy retry operation session failed ∧
    attempt = operation.attemptAt n
      (operation.startAfter policy.waitAfter session.standpoint failed) ∧
    ⟨task.due, later.state⟩ = operation.finish n
      (operation.startAfter policy.waitAfter session.standpoint failed)
  | .ended result => ∃ failed,
    policy.Course retry operation policy.waitAfter session failed result later

/-- An operation is on its course, and nothing but the clock and the state has changed. -/
structure OnCourse (task : Task ε α) (later : Session σ) : Prop where
  cancelledAt_eq : later.cancelledAt = session.cancelledAt
  overflowed_eq : later.overflowed = session.overflowed
  stands : StandsOnCourse policy retry operation session task later

end Steps

variable {policy : RetryPolicy} {retry : ε → Bool} {operation : Operation σ ε α}
  {session later : Session σ}

/-- The start of an attempt. -/
theorem OnCourse.starting {due n : Nat}
    (h : OnCourse policy retry operation session ⟨due, .starting n⟩ later)
    (hfree : later.cancelledBy due = none) :
    OnCourse policy retry operation session
      ((⟨due, .starting n⟩ : Task ε α).step policy retry operation later).1
      ((⟨due, .starting n⟩ : Task ε α).step policy retry operation later).2 := by
  obtain ⟨hcancelledAt, hoverflowed, failed, rfl, hretried, hpoint⟩ := h
  rw [step_starting_of_free hfree]
  refine ⟨hcancelledAt, hoverflowed, failed, rfl, hretried, ?_, ?_⟩
  · rw [← hpoint]
    rfl
  · rw [← hpoint]
    rfl

/-- The end of an attempt that does not cancel and after which no wait is too long. -/
theorem step_running_measured (hmeasurable : policy.IsMeasurable) {due n : Nat}
    {attempt : Attempt ε α} (hfree : later.cancelledBy due = none)
    (hcalm : attempt.cancels = false) :
    step policy retry operation ⟨due, .running n attempt⟩ later =
      (afterAttempt policy retry n due attempt.outcome, { later with now := due }) := by
  have hmeasured := overflowed_step policy retry operation hmeasurable
    ⟨due, .running n attempt⟩ later
  rw [step_running_of_free hfree, endOfAttempt, hcalm] at hmeasured ⊢
  simp only [Bool.false_eq_true, if_false] at hmeasured ⊢
  rw [hmeasured]

/-- The end of an attempt. -/
theorem OnCourse.running (hmeasurable : policy.IsMeasurable) {due n : Nat} {attempt : Attempt ε α}
    (h : OnCourse policy retry operation session ⟨due, .running n attempt⟩ later)
    (hfree : later.cancelledBy due = none) (hcalm : attempt.cancels = false) :
    OnCourse policy retry operation session
      ((⟨due, .running n attempt⟩ : Task ε α).step policy retry operation later).1
      ((⟨due, .running n attempt⟩ : Task ε α).step policy retry operation later).2 := by
  obtain ⟨hcancelledAt, hoverflowed, failed, rfl, hretried, hattempt, hpoint⟩ := h
  have houtcome : attempt.outcome =
      operation.outcomeAfter policy.waitAfter session.standpoint failed :=
    congrArg Attempt.outcome hattempt
  rw [step_running_measured hmeasurable hfree hcalm]
  refine ⟨hcancelledAt, hoverflowed, ?_⟩
  unfold StandsOnCourse afterAttempt
  cases hnext : policy.nextDelay? retry (failed + 1) attempt.outcome with
  | some delay =>
    have hworth := RetryPolicy.exists_error_of_nextDelay?_eq_some hnext
    rw [houtcome] at hworth
    refine ⟨failed + 1, rfl, ⟨RetryPolicy.lt_of_nextDelay?_eq_some hnext, fun k hk => ?_⟩, ?_⟩
    · rcases Nat.lt_succ_iff_lt_or_eq.mp hk with hearlier | rfl
      · exact hretried.2 k hearlier
      · exact hworth
    · rw [Operation.startAfter, ← hpoint, RetryPolicy.delay_of_nextDelay?_eq_some hnext]
      rfl
  | none =>
    refine ⟨failed, ⟨hretried.1, hretried.2, ?_⟩, ?_, ?_⟩
    · rcases Nat.lt_or_eq_of_le hretried.1 with hleft | hused
      · right
        intro error herror
        rw [← houtcome] at herror
        cases hretry : retry error with
        | false => rfl
        | true =>
          have hused := RetryPolicy.maxAttempts_le_of_last hmeasurable herror hretry hnext
          omega
      · exact .inl hused
    · rw [houtcome]
    · rw [← hpoint, ← hcancelledAt, ← hoverflowed]

/-- A step of an operation that is on its course, unless cancellation has fired. -/
theorem OnCourse.step (hmeasurable : policy.IsMeasurable) {task : Task ε α}
    (h : OnCourse policy retry operation session task later) (hunended : task.result? = none)
    (hfinal : (task.step policy retry operation later).2.isCancelled = false) :
    OnCourse policy retry operation session (task.step policy retry operation later).1
      (task.step policy retry operation later).2 := by
  have hfree := cancelledBy_eq_none_of_step hunended hfinal
  obtain ⟨due, stage⟩ := task
  cases stage with
  | ended result => cases hunended
  | starting n => exact h.starting hfree
  | running n attempt =>
    refine h.running hmeasurable hfree ?_
    cases hcancels : attempt.cancels with
    | false => rfl
    | true =>
      rw [step_running_of_free hfree, isCancelled_endOfAttempt _ _ _ _ hcancels] at hfinal
      cases hfinal

end Task

namespace RetryPolicy

/-- An operation that is not cancelled runs its course. -/
theorem exists_course {policy : RetryPolicy} (hmeasurable : policy.IsMeasurable)
    (retry : ε → Bool) (operation : Operation σ ε α) (session : Session σ)
    (h : (policy.execute retry operation session).2.isCancelled = false) :
    ∃ failed, policy.Course retry operation policy.waitAfter session failed
      (policy.execute retry operation session).1 (policy.execute retry operation session).2 := by
  obtain ⟨_, -, hended⟩ := Task.run_invariant policy retry operation
    (P := fun task later => later.now ≤ task.due ∧
      (later.isCancelled = true ∨ Task.OnCourse policy retry operation session task later))
    (by
      rintro task later ⟨hnow, hknown⟩
      cases hresult : task.result? with
      | some result =>
        rw [Task.step_of_result?_eq_some policy retry operation hresult]
        exact ⟨hnow, hknown⟩
      | none =>
        have hkept := Task.sessionKept_step policy retry operation hresult hnow
        refine ⟨hkept.due_le, ?_⟩
        cases hcancelled : (task.step policy retry operation later).2.isCancelled with
        | true => exact .inl rfl
        | false =>
          refine .inr ((hknown.resolve_left fun hfired => ?_).step hmeasurable hresult hcancelled)
          simp [hkept.stays_cancelled hfired] at hcancelled)
    (Task.startingAt session.now) session
    ⟨Nat.le_refl _, .inr ⟨rfl, rfl, 0, rfl, ⟨policy.maxAttempts_pos, by simp⟩, rfl⟩⟩
  exact (hended.resolve_left (by simpa [execute] using h)).stands

section Views

variable {operation : Operation σ ε α} {wider : Operation τ ε α} {view : τ → σ}
  (hwider : ∀ n now state, operation n now (view state) =
    ((wider n now state).1, view (wider n now state).2))
include hwider

theorem step_map (policy : RetryPolicy) (retry : ε → Bool) (task : Task ε α)
    (session : Session τ) :
    task.step policy retry operation (session.map view) =
      ((task.step policy retry wider session).1,
        (task.step policy retry wider session).2.map view) := by
  cases hresult : task.result? with
  | some result =>
    rw [Task.step_of_result?_eq_some policy retry operation hresult,
      Task.step_of_result?_eq_some policy retry wider hresult]
  | none =>
    cases hfires : session.cancelledBy task.due with
    | some instant =>
      have hview : (session.map view).cancelledBy task.due = some instant := hfires
      rw [Task.step_of_cancelledBy_eq_some hresult hfires,
        Task.step_of_cancelledBy_eq_some hresult hview]
      rfl
    | none =>
      have hview : (session.map view).cancelledBy task.due = none := hfires
      obtain ⟨due, stage⟩ := task
      cases stage with
      | ended result => cases hresult
      | starting n =>
        rw [Task.step_starting_of_free hfires, Task.step_starting_of_free hview]
        simp only [Session.map, hwider]
      | running n attempt =>
        rw [Task.step_running_of_free hfires, Task.step_running_of_free hview]
        cases hcancels : attempt.cancels <;> simp only [Task.endOfAttempt, hcancels] <;> rfl

/-- What an operation does beside what a view shows makes no difference to the view. -/
theorem execute_map (policy : RetryPolicy) (retry : ε → Bool) (session : Session τ) :
    policy.execute retry operation (session.map view) =
      ((policy.execute retry wider session).1,
        (policy.execute retry wider session).2.map view) := by
  have hrun (task : Task ε α) (session : Session τ) :
      task.run policy retry operation (session.map view) =
        ((task.run policy retry wider session).1,
          (task.run policy retry wider session).2.map view) := by
    induction task, session using Task.run.induct policy retry wider with
    | case1 task session result hresult =>
      rw [Task.run_of_result?_eq_some policy retry operation hresult,
        Task.run_of_result?_eq_some policy retry wider hresult]
    | case2 task session hunended next hless ih =>
      rw [Task.run_step _ _ _ _ _ hunended, Task.run_step _ _ _ _ _ hunended, ← ih,
        step_map hwider]
  exact hrun _ session

end Views

end RetryPolicy

namespace Operation

def logged (operation : Operation σ ε α) : Operation (σ × List (Nat × Nat)) ε α :=
  fun number now state =>
    ((operation number now state.1).1, (operation number now state.1).2,
      state.2 ++ [(number, now)])

/-- The numbers of the attempts made and when they started. -/
def log (operation : Operation σ ε α) (wait : Nat → Nat) (first : Standpoint σ) (attempts : Nat) :
    List (Nat × Nat) :=
  (List.range attempts).map fun failed => (failed + 1, (operation.startAfter wait first failed).now)

section Logs

variable (operation : Operation σ ε α) (wait : Nat → Nat) (first : Standpoint σ)

theorem log_succ (attempts : Nat) :
    operation.log wait first (attempts + 1) = operation.log wait first attempts ++
      [(attempts + 1, (operation.startAfter wait first attempts).now)] := by
  rw [log, List.range_succ, List.map_append]
  rfl

theorem startAfter_logged (failed : Nat) :
    operation.logged.startAfter wait ⟨first.now, first.state, []⟩ failed =
      ⟨(operation.startAfter wait first failed).now,
        (operation.startAfter wait first failed).state, operation.log wait first failed⟩ := by
  induction failed with
  | zero => rfl
  | succ failed ih =>
    rw [startAfter, ih, startAfter, log_succ]
    rfl

theorem outcomeAfter_logged :
    operation.logged.outcomeAfter wait ⟨first.now, first.state, []⟩ =
      operation.outcomeAfter wait first := by
  funext failed
  rw [outcomeAfter, startAfter_logged]
  rfl

theorem finish_logged (failed : Nat) :
    (operation.logged.finish (failed + 1)
      (operation.logged.startAfter wait ⟨first.now, first.state, []⟩ failed)).state.2 =
      operation.log wait first (failed + 1) := by
  rw [startAfter_logged, log_succ]
  rfl

end Logs

end Operation

namespace RetryPolicy

/-- With a log an operation runs the same course, and it logs the attempts of this course. -/
theorem execute_logged {policy : RetryPolicy} (hmeasurable : policy.IsMeasurable)
    {retry : ε → Bool} {operation : Operation σ ε α} {session : Session σ} {failed : Nat}
    (h : (policy.execute retry operation session).2.isCancelled = false)
    (hlast : policy.IsLastAfter retry
      (operation.outcomeAfter policy.waitAfter session.standpoint) failed) :
    policy.execute retry operation.logged { session with state := (session.state, []) } =
      ((policy.execute retry operation session).1,
        { (policy.execute retry operation session).2 with
          state := ((policy.execute retry operation session).2.state,
            operation.log policy.waitAfter session.standpoint (failed + 1)) }) := by
  have hview (n now : Nat) (state : σ × List (Nat × Nat)) : operation n now state.1 =
      ((operation.logged n now state).1, (operation.logged n now state).2.1) := rfl
  have hsame : policy.execute retry operation session = _ :=
    execute_map hview policy retry { session with state := (session.state, []) }
  have hlogged : (policy.execute retry operation.logged
      { session with state := (session.state, []) }).2.isCancelled = false := by
    rwa [hsame] at h
  obtain ⟨other, hother⟩ := exists_course hmeasurable retry operation.logged _ hlogged
  have hotherLast : policy.IsLastAfter retry
      (operation.outcomeAfter policy.waitAfter session.standpoint) other := by
    rw [← Operation.outcomeAfter_logged]
    exact hother.isLast
  obtain rfl := hotherLast.eq hlast
  have hlog := operation.finish_logged policy.waitAfter session.standpoint other
  rw [hsame, ← hlog, hother.final_eq]
  exact Prod.ext rfl hother.final_eq

/-- An operation runs its course: its attempts come one after the other, each once, with
the waits in between; the last one decides, and there are no more of them than the policy
allows. The waits that attempts of 32 bits make can be measured. -/
theorem execute_runs_course (attempts delayUnit : Nat) (retry : ε → Bool)
    (operation : Operation σ ε α) (session : Session σ)
    (hmeasurable : (ofAttempts attempts delayUnit).IsMeasurable)
    (h : ((ofAttempts attempts delayUnit).execute retry operation session).2.isCancelled = false) :
    ∃ result final failed,
      (ofAttempts attempts delayUnit).execute retry operation session = (result, final) ∧
      failed + 1 ≤ max attempts 1 ∧
      (ofAttempts attempts delayUnit).Course retry operation
        (fun n => min (delayUnit * n) longestSleep) session failed result final ∧
      (ofAttempts attempts delayUnit).execute retry operation.logged
        { session with state := (session.state, []) } =
          (result, { final with state := (final.state, operation.log
            (fun n => min (delayUnit * n) longestSleep) session.standpoint (failed + 1)) }) ∧
      (attempts < Nat.pow 2 32 →
        failed + 1 < Nat.pow 2 32 ∧ (ofAttempts attempts).IsMeasurable) := by
  obtain ⟨failed, hcourse⟩ := exists_course hmeasurable retry operation session h
  have hle : failed + 1 ≤ max attempts 1 := hcourse.isLast.lt
  refine ⟨_, _, failed, rfl, hle, hcourse, execute_logged hmeasurable h hcourse.isLast,
    fun hbits => ⟨?_, isMeasurable_ofAttempts ?_⟩⟩
  · have hpos : 1 < Nat.pow 2 32 := by decide
    omega
  · have hpow : Nat.pow 2 32 ≤ Nat.pow 2 64 := by decide
    omega

def thirdSucceeds : Operation (List Nat) String Nat :=
  scripted { outcome := .error "busy" } [{ outcome := .error "busy" }, { outcome := .ok 1 }]

theorem isLastAfter_thirdSucceeds :
    (ofAttempts 3).IsLastAfter (fun _ => true)
      (thirdSucceeds.outcomeAfter (fun n => min (1000 * n) longestSleep) ⟨0, []⟩) 2 where
  lt := by decide
  retried
    | 0, _ => ⟨"busy", rfl, rfl⟩
    | 1, _ => ⟨"busy", rfl, rfl⟩
  last := .inl rfl

theorem execute_runs_course_thirdSucceeds :
    ((ofAttempts 3).execute (fun _ => true) thirdSucceeds (.start [] none)).2.isCancelled = false ∧
      ∃ final,
        (ofAttempts 3).execute (fun _ => true) thirdSucceeds (.start [] none) = (.ok 1, final) ∧
        (ofAttempts 3).Course (fun _ => true) thirdSucceeds
          (fun n => min (1000 * n) longestSleep) (.start [] none) 2 (.ok 1) final ∧
        (ofAttempts 3).execute (fun _ => true) thirdSucceeds.logged (.start ([], []) none) =
          (.ok 1, { final with state := (final.state, [(1, 0), (2, 1000), (3, 3000)]) }) := by
  have hfree : ((ofAttempts 3).execute (fun _ => true) thirdSucceeds
      (.start [] none)).2.isCancelled = false := by
    decide +kernel
  obtain ⟨result, final, failed, hrun, -, hcourse, hlogged, -⟩ := execute_runs_course 3 1000
    (fun _ => true) thirdSucceeds (.start [] none) (isMeasurable_ofAttempts (by decide)) hfree
  obtain rfl := hcourse.isLast.eq isLastAfter_thirdSucceeds
  obtain rfl : result = .ok 1 := hcourse.result_eq
  exact ⟨hfree, final, hrun, hcourse, hlogged⟩

/-- A wait of more than thirty years is not waited out. -/
theorem not_course_longer_than_longestSleep :
    (ofAttempts 3 1000000000000).IsMeasurable ∧
      ∃ result final,
        (ofAttempts 3 1000000000000).execute (fun _ => true) thirdSucceeds (.start [] none) =
          (result, final) ∧
        final.isCancelled = false ∧
        ∀ failed, ¬ (ofAttempts 3 1000000000000).Course (fun _ => true) thirdSucceeds
          (ofAttempts 3 1000000000000).delayAfter (.start [] none) failed result final := by
  refine ⟨by unfold IsMeasurable; decide, _, _, rfl, by decide +kernel, ?_⟩
  intro failed hcourse
  have hnow := congrArg Session.now hcourse.final_eq
  match failed, hcourse.isLast.lt with
  | 0, _ => exact absurd hnow (by decide +kernel)
  | 1, _ => exact absurd hnow (by decide +kernel)
  | 2, _ => exact absurd hnow (by decide +kernel)

end RetryPolicy

end SearchStore
