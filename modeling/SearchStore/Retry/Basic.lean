/-!
Retried operations in virtual time. An operation is attempted until it succeeds,
fails in a way that is not worth another attempt, or has used up its attempts;
between two attempts it waits, each time one unit longer. A cancellation that
fires ends it at once, whether an attempt is under way or a wait.

An operation goes forward in steps that fall due at instants, so that one can
be run by itself or several side by side.

Nothing takes longer than `longestSleep`. A wait may ask for more and is cut
short, unless it asks for more than can be measured.
-/

namespace SearchStore

/-- The longest time, in milliseconds, that passes between two steps: thirty
years of 365 days. -/
def longestSleep : Nat := 30 * 365 * 86400 * 1000

/-- What an attempt comes to once it has been started: the outcome, how long it
takes in milliseconds, and whether cancellation fires as it ends. -/
structure Attempt (ε α : Type) where
  outcome : Except ε α
  duration : Nat := 0
  cancels : Bool := false

/-- What an attempt does to the state around it. It is given its number, from
one on, and the instant at which it starts. -/
abbrev Operation (σ ε α : Type) := (attempt now : Nat) → σ → Attempt ε α × σ

/-- The present instant, the instant at which cancellation fires if it does,
and the state that operations act on. -/
structure Session (σ : Type) where
  now : Nat := 0
  cancelledAt : Option Nat := none
  /-- Whether an operation came to a wait that cannot be measured. What has come
  of the session is then void. -/
  overflowed : Bool := false
  state : σ

namespace Session

variable {σ : Type}

/-- A session at the beginning of time, to be cancelled after a while if one is
given. -/
def start (state : σ) (cancelAfter : Option Nat) : Session σ :=
  { cancelledAt := cancelAfter.map (min · longestSleep), state }

def isCancelled (session : Session σ) : Bool := session.cancelledAt.any (· ≤ session.now)

/-- Whether cancellation fires before something due at an instant happens, and
when that is. -/
def cancelledBy (session : Session σ) (instant : Nat) : Option Nat :=
  (session.cancelledAt.filter (· ≤ instant)).map (max session.now)

/-- Lets cancellation fire now, unless it has fired already. -/
def cancel (session : Session σ) : Session σ :=
  { session with cancelledAt := some ((session.cancelledAt.getD session.now).min session.now) }

end Session

inductive RetryFailure (ε : Type) where
  /-- The error of the last attempt. -/
  | failed (error : ε)
  | cancelled
deriving DecidableEq, Repr

structure RetryPolicy where
  maxAttempts : Nat
  /-- The wait after the first attempt, in milliseconds. -/
  delayUnit : Nat
  maxAttempts_pos : 0 < maxAttempts

namespace RetryPolicy

/-- At least one attempt, and by default a second to wait after the first. -/
def ofAttempts (attempts : Nat) (delayUnit : Nat := 1000) : RetryPolicy :=
  ⟨max attempts 1, delayUnit, by omega⟩

def defaultAttempts : Nat := 5

def standard : RetryPolicy := ofAttempts defaultAttempts

def delayAfter (policy : RetryPolicy) (attempt : Nat) : Nat := policy.delayUnit * attempt

/-- The wait that is asked for after an attempt, if it can be measured: if it
is below `2 ^ 64` seconds. -/
def delayAfter? (policy : RetryPolicy) (attempt : Nat) : Option Nat :=
  if policy.delayAfter attempt < Nat.pow 2 64 * 1000 then some (policy.delayAfter attempt) else none

def triesAgain {ε α : Type} (policy : RetryPolicy) (retry : ε → Bool) (attempt : Nat) :
    Except ε α → Bool
  | .ok _ => false
  | .error error => attempt < policy.maxAttempts && retry error

/-- The wait before the next attempt, if one is due and the wait can be measured. -/
def nextDelay? {ε α : Type} (policy : RetryPolicy) (retry : ε → Bool) (attempt : Nat)
    (outcome : Except ε α) : Option Nat :=
  if policy.triesAgain retry attempt outcome then policy.delayAfter? attempt else none

theorem lt_of_nextDelay?_eq_some {ε α : Type} {policy : RetryPolicy} {retry : ε → Bool}
    {attempt delay : Nat} {outcome : Except ε α}
    (h : policy.nextDelay? retry attempt outcome = some delay) : attempt < policy.maxAttempts := by
  unfold nextDelay? at h
  split at h
  · next htries => cases outcome <;> simp_all [triesAgain]
  · simp at h

end RetryPolicy

inductive Stage (ε α : Type) where
  | starting (attempt : Nat)
  | running (attempt : Nat) (result : Attempt ε α)
  | ended (result : Except (RetryFailure ε) α)

/-- An operation under way, and the instant at which its next step is due. -/
structure Task (ε α : Type) where
  due : Nat
  stage : Stage ε α

namespace Task

variable {σ ε α : Type}

def startingAt (instant : Nat) : Task ε α := ⟨instant, .starting 1⟩

def result? (task : Task ε α) : Option (Except (RetryFailure ε) α) :=
  match task.stage with
  | .ended result => some result
  | _ => none

def afterAttempt (policy : RetryPolicy) (retry : ε → Bool) (attempt now : Nat)
    (outcome : Except ε α) : Task ε α :=
  match policy.nextDelay? retry attempt outcome with
  | some delay => ⟨now + min delay longestSleep, .starting (attempt + 1)⟩
  | none => ⟨now, .ended (outcome.mapError .failed)⟩

/-- The step that is due: cancellation if it fires first, the start of an
attempt, or its end. -/
def step (policy : RetryPolicy) (retry : ε → Bool) (operation : Operation σ ε α)
    (task : Task ε α) (session : Session σ) : Task ε α × Session σ :=
  match task.stage with
  | .ended _ => (task, session)
  | .starting attempt =>
    match session.cancelledBy task.due with
    | some instant => (⟨instant, .ended (.error .cancelled)⟩, { session with now := instant })
    | none =>
      let (result, state) := operation attempt task.due session.state
      (⟨task.due + min result.duration longestSleep, .running attempt result⟩,
        { session with now := task.due, state })
  | .running attempt result =>
    match session.cancelledBy task.due with
    | some instant => (⟨instant, .ended (.error .cancelled)⟩, { session with now := instant })
    | none =>
      let overflows :=
        policy.triesAgain retry attempt result.outcome && (policy.delayAfter? attempt).isNone
      let session :=
        { session with now := task.due, overflowed := session.overflowed || overflows }
      (afterAttempt policy retry attempt task.due result.outcome,
        if result.cancels then session.cancel else session)

/-- A bound on the steps still to come. -/
def remaining (policy : RetryPolicy) (task : Task ε α) : Nat :=
  match task.stage with
  | .ended _ => 0
  | .starting attempt => 2 * (policy.maxAttempts - attempt) + 2
  | .running attempt _ => 2 * (policy.maxAttempts - attempt) + 1

theorem remaining_afterAttempt_lt (policy : RetryPolicy) (retry : ε → Bool) (attempt now : Nat)
    (outcome : Except ε α) :
    (afterAttempt policy retry attempt now outcome).remaining policy
      < 2 * (policy.maxAttempts - attempt) + 1 := by
  unfold afterAttempt
  split
  · next h =>
    have := RetryPolicy.lt_of_nextDelay?_eq_some h
    simp only [remaining]
    omega
  · simp [remaining]

/-- Every step of a task that has not ended brings its end nearer. -/
theorem remaining_step_lt (policy : RetryPolicy) (retry : ε → Bool) (operation : Operation σ ε α)
    (task : Task ε α) (session : Session σ) (h : task.result? = none) :
    (task.step policy retry operation session).1.remaining policy < task.remaining policy := by
  unfold step
  split
  · next hstage => simp [result?, hstage] at h
  · next attempt hstage =>
    split
    · simp [remaining, hstage]
    · simp [remaining, hstage]
  · next attempt result hstage =>
    split
    · simp [remaining, hstage]
    · simpa [remaining, hstage] using
        remaining_afterAttempt_lt policy retry attempt task.due result.outcome

def run (policy : RetryPolicy) (retry : ε → Bool) (operation : Operation σ ε α)
    (task : Task ε α) (session : Session σ) : Except (RetryFailure ε) α × Session σ :=
  match h : task.result? with
  | some result => (result, session)
  | none =>
    let next := task.step policy retry operation session
    have : next.1.remaining policy < task.remaining policy :=
      remaining_step_lt policy retry operation task session h
    run policy retry operation next.1 next.2
termination_by task.remaining policy

end Task

def RetryPolicy.execute {σ ε α : Type} (policy : RetryPolicy) (retry : ε → Bool)
    (operation : Operation σ ε α) (session : Session σ) :
    Except (RetryFailure ε) α × Session σ :=
  (Task.startingAt session.now).run policy retry operation session

end SearchStore
