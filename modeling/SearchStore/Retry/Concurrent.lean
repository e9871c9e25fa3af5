import SearchStore.Retry.Basic

/-!
Retried operations side by side. They share the state, the clock and the
cancellation. The step that falls due first is taken first; of steps due at the
same instant, that of the operation that comes first in the list.
-/

namespace SearchStore.Task

variable {σ ε α : Type}

abbrev Member (σ ε α : Type) := Operation σ ε α × Task ε α

/-- The place of the step to take next, and the instant at which it is due. -/
def nextDue : List (Member σ ε α) → Option (Nat × Nat)
  | [] => none
  | (_, task) :: rest =>
    match task.result?, nextDue rest with
    | some _, none => none
    | some _, some (place, due) => some (place + 1, due)
    | none, none => some (0, task.due)
    | none, some (place, due) =>
      if task.due ≤ due then some (0, task.due) else some (place + 1, due)

def stepAt (policy : RetryPolicy) (retry : ε → Bool) :
    (place : Nat) → List (Member σ ε α) → Session σ → List (Member σ ε α) × Session σ
  | _, [], session => ([], session)
  | 0, (operation, task) :: rest, session =>
    let (task, session) := task.step policy retry operation session
    ((operation, task) :: rest, session)
  | place + 1, member :: rest, session =>
    let (rest, session) := stepAt policy retry place rest session
    (member :: rest, session)

def totalRemaining (policy : RetryPolicy) : List (Member σ ε α) → Nat
  | [] => 0
  | (_, task) :: rest => task.remaining policy + totalRemaining policy rest

/-- Taking the step that is due brings the end of all operations nearer. -/
theorem totalRemaining_stepAt_lt (policy : RetryPolicy) (retry : ε → Bool)
    (members : List (Member σ ε α)) (session : Session σ) (place due : Nat)
    (h : nextDue members = some (place, due)) :
    totalRemaining policy (stepAt policy retry place members session).1
      < totalRemaining policy members := by
  induction members generalizing place due with
  | nil => simp [nextDue] at h
  | cons member rest ih =>
    obtain ⟨operation, task⟩ := member
    have hhere (hnone : task.result? = none) :
        totalRemaining policy (stepAt policy retry 0 ((operation, task) :: rest) session).1
          < totalRemaining policy ((operation, task) :: rest) := by
      have hstep := remaining_step_lt policy retry operation task session hnone
      simp only [stepAt, totalRemaining]
      omega
    have hbelow (p d : Nat) (hnext : nextDue rest = some (p, d)) :
        totalRemaining policy (stepAt policy retry (p + 1) ((operation, task) :: rest) session).1
          < totalRemaining policy ((operation, task) :: rest) := by
      have hrest := ih p d hnext
      simp only [stepAt, totalRemaining]
      omega
    unfold nextDue at h
    split at h
    · simp at h
    · next p d _ hnext =>
      cases h
      exact hbelow p due hnext
    · next hnone _ =>
      cases h
      exact hhere hnone
    · next p d hnone hnext =>
      split at h
      · cases h
        exact hhere hnone
      · cases h
        exact hbelow p due hnext

def runAll (policy : RetryPolicy) (retry : ε → Bool) (members : List (Member σ ε α))
    (session : Session σ) : List (Option (Except (RetryFailure ε) α)) × Session σ :=
  match h : nextDue members with
  | none => (members.map fun member => member.2.result?, session)
  | some (place, due) =>
    let next := stepAt policy retry place members session
    have : totalRemaining policy next.1 < totalRemaining policy members :=
      totalRemaining_stepAt_lt policy retry members session place due h
    runAll policy retry next.1 next.2
termination_by totalRemaining policy members

end SearchStore.Task

namespace SearchStore

/-- Runs operations side by side from now on, to the end of the last one. -/
def RetryPolicy.executeAll {σ ε α : Type} (policy : RetryPolicy) (retry : ε → Bool)
    (operations : List (Operation σ ε α)) (session : Session σ) :
    List (Option (Except (RetryFailure ε) α)) × Session σ :=
  Task.runAll policy retry
    (operations.map fun operation => (operation, Task.startingAt session.now)) session

end SearchStore
