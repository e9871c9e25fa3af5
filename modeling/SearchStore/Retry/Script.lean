import SearchStore.Retry.Basic

/-!
Retried operations whose outcomes are written down beforehand.
-/

namespace SearchStore

/-- How a scripted operation went: the instants at which its attempts began,
the time it took, and its end. The first attempt counts as begun even when
cancellation kept it from doing anything. -/
structure ScriptRun (ε α : Type) where
  attempts : List Nat
  elapsed : Nat
  /-- Whether it came to a wait that cannot be measured, which voids the run. -/
  overflowed : Bool
  result : Except (RetryFailure ε) α

/-- The operation that takes outcome after outcome, and repeats the last one. -/
def scripted {ε α : Type} (first : Attempt ε α) (others : List (Attempt ε α)) :
    Operation (List Nat) ε α :=
  fun attempt now begun =>
    (((first :: others)[attempt - 1]?).getD (others.getLastD first), begun ++ [now])

def RetryPolicy.runScript {ε α : Type} (policy : RetryPolicy) (retry : ε → Bool)
    (first : Attempt ε α) (others : List (Attempt ε α)) (cancelAfter : Option Nat) :
    ScriptRun ε α :=
  let (result, session) :=
    policy.execute retry (scripted first others) (.start [] cancelAfter)
  ⟨if session.state.isEmpty then [0] else session.state, session.now, session.overflowed, result⟩

end SearchStore
