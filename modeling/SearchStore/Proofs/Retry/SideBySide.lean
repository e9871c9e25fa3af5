import SearchStore.Proofs.Retry.Delivery
import SearchStore.Retry.Concurrent

/-!
Operations side by side whose first attempts are lost. Their effects come about
in an order that depends on what is lost, so nothing can be said of their end
unless the order does not matter. If it does not, the state at the end is that of
the effects one after the other in the order of the operations.

Each operation that has not had its effect yet is pending. A step of any one of
them leaves the pending ones as they are, or takes one away and has its effect;
so the effects of the pending ones, put after what has come about already, come
to the same at every step.
-/

namespace SearchStore

variable {κ σ τ υ ε α : Type}

/-- Operations on one state, each of which has its effect once its own attempts
are left to lose no more. None brings back attempts to lose. -/
structure DeliversAll (retry : ε → Bool) (operation : κ → Operation τ ε α) (view : τ → σ)
    (left : κ → τ → Nat) (effect : κ → σ → Except ε α × σ) : Prop where
  delivers : ∀ key, Delivers retry (operation key) view (left key) (effect key)
  left_le : ∀ key n now state other, left other (operation key n now state).2 ≤ left other state

/-- An effect after others: the view that they come to, and whether any of them
called for another attempt. -/
def RetryPolicy.settle (policy : RetryPolicy) (retry : ε → Bool) (effect : κ → σ → Except ε α × σ)
    (settled : σ × Bool) (key : κ) : σ × Bool :=
  ((effect key settled.1).2, settled.2 || policy.triesAgain retry 1 (effect key settled.1).1)

def RetryPolicy.AnyOrder (policy : RetryPolicy) (retry : ε → Bool)
    (effect : κ → σ → Except ε α × σ) : Prop :=
  ∀ key other settled,
    policy.settle retry effect (policy.settle retry effect settled key) other =
      policy.settle retry effect (policy.settle retry effect settled other) key

/-- Whether the attempt of a number may come about: the wait before it can be
measured. -/
def RetryPolicy.Reaches (policy : RetryPolicy) (n : Nat) : Prop :=
  0 < n ∧ (1 < n → (policy.delayAfter? (n - 1)).isSome)

theorem RetryPolicy.reaches_one (policy : RetryPolicy) : policy.Reaches 1 :=
  ⟨Nat.one_pos, fun h => absurd h (Nat.lt_irrefl 1)⟩

/-- Where no wait can be measured only the first attempt comes about. -/
theorem RetryPolicy.Reaches.eq_one {policy : RetryPolicy} {n : Nat} (h : policy.Reaches n)
    (hnever : ∀ n, 0 < n → policy.delayAfter? n = none) : n = 1 := by
  obtain ⟨hpos, hwait⟩ := h
  rcases Nat.lt_or_ge 1 n with hlater | hfirst
  · have hsome := hwait hlater
    rw [hnever (n - 1) (by omega)] at hsome
    cases hsome
  · omega

namespace Task

section Invariants

variable (policy : RetryPolicy) (retry : ε → Bool)

theorem runAll_of_nextDue_eq_none {members : List (Member τ ε α)} (h : nextDue members = none)
    (session : Session τ) :
    runAll policy retry members session =
      (members.map fun member => member.2.result?, session) := by
  rw [runAll]
  split
  · rfl
  · next hsome => simp [h] at hsome

theorem runAll_of_nextDue_eq_some {members : List (Member τ ε α)} {place due : Nat}
    (h : nextDue members = some (place, due)) (session : Session τ) :
    runAll policy retry members session =
      runAll policy retry (stepAt policy retry place members session).1
        (stepAt policy retry place members session).2 := by
  rw [runAll]
  split
  · next hnone => simp [hnone] at h
  · next place' due' hsome =>
    obtain ⟨rfl, rfl⟩ : place' = place ∧ due' = due := by simpa [hsome] using h
    rfl

/-- What every step that falls due keeps holds when all operations have ended. -/
theorem runAll_induction {P : List (Member τ ε α) → Session τ → Prop}
    (hstep : ∀ place due members session, nextDue members = some (place, due) →
      P members session →
      P (stepAt policy retry place members session).1 (stepAt policy retry place members session).2)
    (members : List (Member τ ε α)) (session : Session τ) (h : P members session) :
    ∃ ended final, nextDue ended = none ∧ P ended final ∧
      runAll policy retry members session =
        (ended.map fun member => member.2.result?, final) := by
  induction members, session using runAll.induct policy retry with
  | case1 members session hnone =>
    exact ⟨members, session, hnone, h, runAll_of_nextDue_eq_none policy retry hnone session⟩
  | case2 members session place due hsome next hless ih =>
    rw [runAll_of_nextDue_eq_some policy retry hsome session]
    exact ih (hstep place due members session hsome h)

/-- What every step keeps holds when all operations have ended. -/
theorem runAll_invariant {P : List (Member τ ε α) → Session τ → Prop}
    (hstep : ∀ place members session, P members session →
      P (stepAt policy retry place members session).1 (stepAt policy retry place members session).2)
    (members : List (Member τ ε α)) (session : Session τ) (h : P members session) :
    ∃ ended, nextDue ended = none ∧ P ended (runAll policy retry members session).2 := by
  obtain ⟨ended, final, hnone, hkept, hrun⟩ := runAll_induction policy retry
    (fun place _ members session _ => hstep place members session) members session h
  rw [hrun]
  exact ⟨ended, hnone, hkept⟩

/-- What the steps of all operations keep of a session is kept side by side. -/
theorem stepAt_keeps {P : Session τ → Prop}
    (hstep : ∀ (operation : Operation τ ε α) (task : Task ε α) session, P session →
      P (task.step policy retry operation session).2)
    (place : Nat) (members : List (Member τ ε α)) (session : Session τ) (h : P session) :
    P (stepAt policy retry place members session).2 := by
  induction members generalizing place with
  | nil => cases place <;> exact h
  | cons member rest ih =>
    cases place with
    | zero => exact hstep member.1 member.2 session h
    | succ place => exact ih place

end Invariants

/-- How an operation stands: what is pending, which is its effect or nothing any
more, and whether what came of it calls for another attempt while it is not over. -/
inductive Standing (policy : RetryPolicy) (retry : ε → Bool) (operation : κ → Operation τ ε α)
    (left : κ → Nat) : Member τ ε α → List κ → Bool → Prop
  | waiting {due n : Nat} (key : κ) (hreached : policy.Reaches n)
      (hleft : n + left key ≤ policy.maxAttempts) :
      Standing policy retry operation left (operation key, ⟨due, .starting n⟩) [key] false
  | lost {due n : Nat} (key : κ) (attempt : Attempt ε α)
      (hleft : n + 1 + left key ≤ policy.maxAttempts) (hcalm : attempt.cancels = false)
      (hlost : ∃ error, attempt.outcome = .error error ∧ retry error = true) :
      Standing policy retry operation left (operation key, ⟨due, .running n attempt⟩) [key] false
  | delivered {due n : Nat} (key : κ) (attempt : Attempt ε α) (hreached : policy.Reaches n)
      (hcalm : attempt.cancels = false) :
      Standing policy retry operation left (operation key, ⟨due, .running n attempt⟩) []
        (policy.triesAgain retry 1 attempt.outcome)
  | ended {due : Nat} (key : κ) (result : Except (RetryFailure ε) α) :
      Standing policy retry operation left (operation key, ⟨due, .ended result⟩) [] false

inductive FanOut (policy : RetryPolicy) (retry : ε → Bool) (operation : κ → Operation τ ε α)
    (left : κ → Nat) : List (Member τ ε α) → List κ → Bool → Prop
  | nil : FanOut policy retry operation left [] [] false
  | cons {member : Member τ ε α} {rest : List (Member τ ε α)} {keys pending : List κ}
      {here again : Bool} (hmember : Standing policy retry operation left member keys here)
      (hrest : FanOut policy retry operation left rest pending again) :
      FanOut policy retry operation left (member :: rest) (keys ++ pending) (here || again)

variable {policy : RetryPolicy} {retry : ε → Bool} {operation : κ → Operation τ ε α}

/-- With fewer attempts left to lose an operation stands as it stood. -/
theorem Standing.mono {left less : κ → Nat} {member : Member τ ε α} {keys : List κ} {again : Bool}
    (hle : ∀ key, less key ≤ left key)
    (h : Standing policy retry operation left member keys again) :
    Standing policy retry operation less member keys again := by
  cases h with
  | waiting key hreached hleft =>
    have hless := hle key
    exact .waiting key hreached (by omega)
  | lost key attempt hleft hcalm hlost =>
    have hless := hle key
    exact .lost key attempt (by omega) hcalm hlost
  | delivered key attempt hreached hcalm => exact .delivered key attempt hreached hcalm
  | ended key result => exact .ended key result

theorem FanOut.mono {left less : κ → Nat} {members : List (Member τ ε α)} {pending : List κ}
    {again : Bool} (hle : ∀ key, less key ≤ left key)
    (h : FanOut policy retry operation left members pending again) :
    FanOut policy retry operation less members pending again := by
  induction h with
  | nil => exact .nil
  | cons hmember _ ih => exact .cons (hmember.mono hle) ih

theorem FanOut.startingAt (left : κ → Nat) (instant : Nat) (keys : List κ)
    (hleft : ∀ key ∈ keys, left key < policy.maxAttempts) :
    FanOut policy retry operation left
      ((keys.map operation).map fun op => (op, Task.startingAt instant)) keys false := by
  induction keys with
  | nil => exact .nil
  | cons key rest ih =>
    have hkey := hleft key List.mem_cons_self
    have hwaiting : Standing policy retry operation left
        (operation key, Task.startingAt instant) [key] false :=
      .waiting key policy.reaches_one (by omega)
    exact .cons hwaiting (ih fun other hother => hleft other (List.mem_cons_of_mem _ hother))

theorem isSome_result?_of_nextDue_eq_none {member : Member τ ε α} {rest : List (Member τ ε α)}
    (h : nextDue (member :: rest) = none) : member.2.result?.isSome ∧ nextDue rest = none := by
  obtain ⟨operation, task⟩ := member
  unfold nextDue at h
  split at h
  · next hresult hrest => exact ⟨by rw [hresult]; rfl, hrest⟩
  · cases h
  · cases h
  · split at h <;> cases h

/-- When all operations have ended nothing is pending. -/
theorem FanOut.of_nextDue_eq_none {left : κ → Nat} {members : List (Member τ ε α)}
    {pending : List κ} {again : Bool}
    (h : FanOut policy retry operation left members pending again)
    (hended : nextDue members = none) : pending = [] ∧ again = false := by
  induction h with
  | nil => exact ⟨rfl, rfl⟩
  | cons hmember _ ih =>
    obtain ⟨hhere, hrest⟩ := isSome_result?_of_nextDue_eq_none hended
    obtain ⟨rfl, rfl⟩ := ih hrest
    cases hmember with
    | ended key result => exact ⟨rfl, rfl⟩
    | waiting => cases hhere
    | lost => cases hhere
    | delivered => cases hhere

/-- What one step does to what is pending and to what has come about: it leaves all
as it is, or one of the pending effects comes about. -/
inductive Advances (policy : RetryPolicy) (retry : ε → Bool) (effect : κ → σ → Except ε α × σ)
    (settled : σ × Bool) (pending : List κ) : σ × Bool → List κ → Prop
  | unchanged : Advances policy retry effect settled pending settled pending
  | delivered {remaining : List κ} (key : κ) (hperm : pending.Perm (key :: remaining)) :
      Advances policy retry effect settled pending
        (policy.settle retry effect settled key) remaining

namespace Advances

variable {effect : κ → σ → Except ε α × σ} {before after : σ} {again later : Bool}
  {pending remaining : List κ}

/-- A step of operations that stand after others. -/
theorem after_others (keys : List κ) (here : Bool)
    (h : Advances policy retry effect (before, again) pending (after, later) remaining) :
    Advances policy retry effect (before, here || again) (keys ++ pending)
      (after, here || later) (keys ++ remaining) := by
  generalize hsettled : (after, later) = settled at h
  cases h with
  | unchanged =>
    cases hsettled
    exact .unchanged
  | delivered key hperm =>
    cases hsettled
    rw [← Bool.or_assoc]
    exact .delivered key ((hperm.append_left keys).trans List.perm_middle)

/-- A step of an operation that stands before others. -/
theorem before_others (keys : List κ) (there : Bool)
    (h : Advances policy retry effect (before, again) pending (after, later) remaining) :
    Advances policy retry effect (before, again || there) (pending ++ keys)
      (after, later || there) (remaining ++ keys) := by
  generalize hsettled : (after, later) = settled at h
  cases h with
  | unchanged =>
    cases hsettled
    exact .unchanged
  | delivered key hperm =>
    cases hsettled
    rw [Bool.or_right_comm]
    exact .delivered key (hperm.append_right keys)

/-- If the order does not matter, the pending effects come to the same after a step
as before it. -/
theorem foldl_eq {settled next : σ × Bool} (horder : policy.AnyOrder retry effect)
    (h : Advances policy retry effect settled pending next remaining) :
    remaining.foldl (policy.settle retry effect) next =
      pending.foldl (policy.settle retry effect) settled := by
  cases h with
  | unchanged => rfl
  | delivered key hperm =>
    rw [hperm.foldl_eq' fun other _ another _ settled => horder other another settled]
    rfl

end Advances

section Steps

variable {view : τ → σ} {left : κ → τ → Nat} {effect : κ → σ → Except ε α × σ}

/-- What is kept of a session by a step where nothing is cancelled: either a wait
could not be measured, or all operations stand as they must. -/
structure Stepped (left : κ → τ → Nat) (session next : Session τ) (stands : Prop) : Prop where
  cancelledAt_eq : next.cancelledAt = none
  left_le : ∀ key, left key next.state ≤ left key session.state
  stands_or : next.overflowed = true ∨ stands

theorem Stepped.imp {session next : Session τ} {stands stands' : Prop}
    (h : Stepped left session next stands)
    (himp : (∀ key, left key next.state ≤ left key session.state) → stands → stands') :
    Stepped left session next stands' :=
  ⟨h.cancelledAt_eq, h.left_le, h.stands_or.imp_right (himp h.left_le)⟩

variable (hall : DeliversAll retry operation view left effect) {session : Session τ}
  (hcancelled : session.cancelledAt = none)
include hall hcancelled

/-- A step of one operation. If its effect has come about and calls for another
attempt, the wait for it must not be measurable. -/
theorem Standing.step {member : Member τ ε α} {keys : List κ} {again : Bool}
    (h : Standing policy retry operation (left · session.state) member keys again)
    (hcase : again = false ∨ ∀ n, 0 < n → policy.delayAfter? n = none) :
    Stepped left session (member.2.step policy retry member.1 session).2
      (∃ remaining later, Standing policy retry operation
          (left · (member.2.step policy retry member.1 session).2.state)
          (member.1, (member.2.step policy retry member.1 session).1) remaining later ∧
        Advances policy retry effect (view session.state, again) keys
          (view (member.2.step policy retry member.1 session).2.state, later) remaining) := by
  cases h with
  | @waiting due n key hreached hleft =>
    have hle := hall.left_le key n due session.state
    have hcalm := (hall.delivers key).not_cancels n due session.state
    rw [step_starting hcancelled]
    refine ⟨hcancelled, hle, .inr ?_⟩
    rcases Nat.eq_zero_or_pos (left key session.state) with hnone | hsome
    · -- The effect comes about.
      obtain ⟨houtcome, hview⟩ := (hall.delivers key).delivered n due session.state hnone
      refine ⟨[], _, .delivered key _ hreached hcalm, ?_⟩
      rw [houtcome, hview]
      exact .delivered key (.refl [key])
    · obtain ⟨hlost, hview, hless⟩ := (hall.delivers key).lost n due session.state hsome
      have hbound : n + 1 + left key (operation key n due session.state).2 ≤
          policy.maxAttempts := by omega
      refine ⟨[key], false, .lost key _ hbound hcalm hlost, ?_⟩
      rw [hview]
      exact .unchanged
  | @lost due n key attempt hleft hcalm hlost =>
    obtain ⟨error, houtcome, hretry⟩ := hlost
    have htries : policy.triesAgain retry n attempt.outcome = true := by
      rw [houtcome, RetryPolicy.triesAgain, hretry, Bool.and_true, decide_eq_true_eq]
      omega
    rw [step_running hcancelled hcalm]
    refine ⟨hcancelled, fun _ => Nat.le_refl _, ?_⟩
    cases hwait : policy.delayAfter? n with
    | none => simp [htries]
    | some delay =>
      have hreached : policy.Reaches (n + 1) := ⟨Nat.succ_pos n, fun _ => by simp [hwait]⟩
      have hnext : policy.nextDelay? retry n attempt.outcome = some delay := by
        rw [RetryPolicy.nextDelay?, if_pos htries, hwait]
      refine .inr ⟨[key], false, ?_, .unchanged⟩
      rw [afterAttempt, hnext]
      exact .waiting key hreached hleft
  | @delivered due n key attempt hreached hcalm =>
    rw [step_running hcancelled hcalm]
    refine ⟨hcancelled, fun _ => Nat.le_refl _, ?_⟩
    cases honce : policy.triesAgain retry 1 attempt.outcome with
    | true =>
      -- No second attempt comes about where no wait can be measured.
      have hnever := hcase.resolve_left (by simp [honce])
      obtain rfl := hreached.eq_one hnever
      simp [honce, hnever 1 Nat.one_pos]
    | false =>
      have hnext : policy.nextDelay? retry n attempt.outcome = none := by
        rw [RetryPolicy.nextDelay?, RetryPolicy.triesAgain_eq_false hreached.1 honce]
        rfl
      refine .inr ⟨[], false, ?_, .unchanged⟩
      rw [afterAttempt, hnext]
      exact .ended key _
  | ended key result =>
    exact ⟨hcancelled, fun _ => Nat.le_refl _, .inr ⟨[], false, .ended key result, .unchanged⟩⟩

/-- A step of any of the operations. -/
theorem FanOut.stepAt {members : List (Member τ ε α)} {pending : List κ} {again : Bool}
    (h : FanOut policy retry operation (left · session.state) members pending again)
    (hcase : again = false ∨ ∀ n, 0 < n → policy.delayAfter? n = none) (place : Nat) :
    Stepped left session (Task.stepAt policy retry place members session).2
      (∃ remaining later, FanOut policy retry operation
          (left · (Task.stepAt policy retry place members session).2.state)
          (Task.stepAt policy retry place members session).1 remaining later ∧
        Advances policy retry effect (view session.state, again) pending
          (view (Task.stepAt policy retry place members session).2.state, later) remaining) := by
  induction h generalizing place with
  | nil =>
    have hsame : Task.stepAt policy retry place ([] : List (Member τ ε α)) session =
        ([], session) := by cases place <;> rfl
    rw [hsame]
    exact ⟨hcancelled, fun _ => Nat.le_refl _, .inr ⟨[], false, .nil, .unchanged⟩⟩
  | @cons member rest keys pending here again hmember hrest ih =>
    cases place with
    | zero =>
      have hcaseHere := hcase.imp_left fun hfalse => (Bool.or_eq_false_iff.mp hfalse).1
      refine (hmember.step hall hcancelled hcaseHere).imp ?_
      intro hle ⟨remaining, later, hstands, hadvances⟩
      exact ⟨remaining ++ pending, later || again, .cons hstands (hrest.mono hle),
        hadvances.before_others pending again⟩
    | succ place =>
      have hcaseRest := hcase.imp_left fun hfalse => (Bool.or_eq_false_iff.mp hfalse).2
      refine (ih hcaseRest place).imp ?_
      intro hle ⟨remaining, later, hstands, hadvances⟩
      exact ⟨keys ++ remaining, here || later, .cons (hmember.mono hle) hstands,
        hadvances.after_others keys here⟩

end Steps

/-- What is known of operations side by side until all have ended: the session is
void, or the effects that have come about together with the pending ones come to
the same as all of them in their order. -/
def SettlesTo (policy : RetryPolicy) (retry : ε → Bool) (operation : κ → Operation τ ε α)
    (view : τ → σ) (left : κ → τ → Nat) (effect : κ → σ → Except ε α × σ) (settled : σ × Bool)
    (members : List (Member τ ε α)) (session : Session τ) : Prop :=
  session.overflowed = true ∨ session.cancelledAt = none ∧ ∃ pending again,
    FanOut policy retry operation (left · session.state) members pending again ∧
      pending.foldl (policy.settle retry effect) (view session.state, again) = settled

/-- What called for another attempt is not made good by later effects. -/
theorem foldl_settle_of_again {effect : κ → σ → Except ε α × σ} (keys : List κ) (view : σ) :
    (keys.foldl (policy.settle retry effect) (view, true)).2 = true := by
  induction keys generalizing view with
  | nil => rfl
  | cons key rest ih => exact ih (effect key view).2

theorem SettlesTo.stepAt {view : τ → σ} {left : κ → τ → Nat} {effect : κ → σ → Except ε α × σ}
    (hall : DeliversAll retry operation view left effect) (horder : policy.AnyOrder retry effect)
    {settled : σ × Bool} (hcase : settled.2 = false ∨ ∀ n, 0 < n → policy.delayAfter? n = none)
    (place : Nat) (members : List (Member τ ε α)) (session : Session τ)
    (h : SettlesTo policy retry operation view left effect settled members session) :
    SettlesTo policy retry operation view left effect settled
      (Task.stepAt policy retry place members session).1
      (Task.stepAt policy retry place members session).2 := by
  rcases h with hvoid | ⟨hnone, pending, again, hstands, htotal⟩
  · exact .inl (stepAt_keeps policy retry (overflowed_step_of_overflowed policy retry)
      place members session hvoid)
  · have hcaseNow : again = false ∨ ∀ n, 0 < n → policy.delayAfter? n = none := by
      refine hcase.imp_left fun hfalse => ?_
      cases again with
      | false => rfl
      | true => simp [← htotal, foldl_settle_of_again] at hfalse
    have hstepped := hstands.stepAt hall hnone hcaseNow place
    refine hstepped.stands_or.imp_right ?_
    intro ⟨remaining, later, hnext, hadvances⟩
    exact ⟨hstepped.cancelledAt_eq, remaining, later, hnext,
      (hadvances.foldl_eq horder).trans htotal⟩

end Task

namespace RetryPolicy

open SearchStore.Task

variable {policy : RetryPolicy} {retry : ε → Bool}

theorem overflowed_executeAll (hmeasurable : policy.IsMeasurable) (retry : ε → Bool)
    (operations : List (Operation τ ε α)) (session : Session τ) :
    (policy.executeAll retry operations session).2.overflowed = session.overflowed := by
  have hstep (operation : Operation τ ε α) (task : Task ε α) (later : Session τ)
      (h : later.overflowed = session.overflowed) :
      (task.step policy retry operation later).2.overflowed = session.overflowed :=
    (overflowed_step policy retry operation hmeasurable task later).trans h
  obtain ⟨_, -, hended⟩ := runAll_invariant policy retry
    (P := fun _ later => later.overflowed = session.overflowed)
    (stepAt_keeps policy retry hstep)
    (operations.map fun operation => (operation, Task.startingAt session.now)) session rfl
  exact hended

theorem overflowed_executeAll_of_overflowed (policy : RetryPolicy) (retry : ε → Bool)
    (operations : List (Operation τ ε α)) (session : Session τ) (h : session.overflowed = true) :
    (policy.executeAll retry operations session).2.overflowed = true := by
  obtain ⟨_, -, hended⟩ := runAll_invariant policy retry
    (P := fun _ later => later.overflowed = true)
    (stepAt_keeps policy retry (overflowed_step_of_overflowed policy retry))
    (operations.map fun operation => (operation, Task.startingAt session.now)) session h
  exact hended

/-- Lost attempts are made up for side by side. If no effect in the order of the
operations calls for another attempt, or else no wait can be measured, then the
session is void or the state at the end is that of the effects in this order, none
of which calls for another attempt. -/
theorem executeAll_delivers {operation : κ → Operation τ ε α} {view : τ → σ} {left : κ → τ → Nat}
    {effect : κ → σ → Except ε α × σ} (hall : DeliversAll retry operation view left effect)
    (horder : policy.AnyOrder retry effect) (keys : List κ) (session : Session τ)
    (hcancelled : session.cancelledAt = none)
    (hleft : ∀ key ∈ keys, left key session.state < policy.maxAttempts)
    (hcase : (keys.foldl (policy.settle retry effect) (view session.state, false)).2 = false ∨
      ∀ n, 0 < n → policy.delayAfter? n = none) :
    (policy.executeAll retry (keys.map operation) session).2.overflowed = true ∨
      (policy.executeAll retry (keys.map operation) session).2.cancelledAt = none ∧
        keys.foldl (policy.settle retry effect) (view session.state, false) =
          (view (policy.executeAll retry (keys.map operation) session).2.state, false) := by
  have hstart : SettlesTo policy retry operation view left effect
      (keys.foldl (policy.settle retry effect) (view session.state, false))
      ((keys.map operation).map fun op => (op, Task.startingAt session.now)) session :=
    .inr ⟨hcancelled, keys, false, FanOut.startingAt _ session.now keys hleft, rfl⟩
  obtain ⟨members, hended, hsettles⟩ := runAll_invariant policy retry
    (SettlesTo.stepAt hall horder hcase) _ session hstart
  refine hsettles.imp_right ?_
  intro ⟨hnone, pending, again, hstands, htotal⟩
  obtain ⟨rfl, rfl⟩ := hstands.of_nextDue_eq_none hended
  exact ⟨hnone, htotal.symm⟩

/-- What operations side by side come to without any losses they come to in spite of
them, unless one of them calls for a second attempt. -/
theorem executeAll_masks {plain : κ → Operation σ ε α} {lossy : κ → Operation τ ε α} {of : σ → υ}
    {view : τ → υ} {left : κ → τ → Nat} {effect : κ → υ → Except ε α × υ}
    (hplain : DeliversAll retry plain of (fun _ _ => 0) effect)
    (hlossy : DeliversAll retry lossy view left effect) (hmeasurable : policy.IsMeasurable)
    (horder : policy.AnyOrder retry effect) (keys : List κ) (session : Session σ)
    (later : Session τ) (hsession : session.cancelledAt = none)
    (hlater : later.cancelledAt = none) (hvalid : later.overflowed = false)
    (hleft : ∀ key, left key later.state < policy.maxAttempts)
    (hsame : view later.state = of session.state) :
    (policy.unwaiting.executeAll retry (keys.map plain) session).2.overflowed = true ∨
      (policy.unwaiting.executeAll retry (keys.map plain) session).2.cancelledAt = none ∧
        (policy.executeAll retry (keys.map lossy) later).2.cancelledAt = none ∧
        view (policy.executeAll retry (keys.map lossy) later).2.state =
          of (policy.unwaiting.executeAll retry (keys.map plain) session).2.state := by
  -- Effects settle in the same way under either policy.
  have horderOnce : policy.unwaiting.AnyOrder retry effect := horder
  have honce := executeAll_delivers hplain horderOnce keys session hsession
    (fun _ _ => policy.maxAttempts_pos) (.inr fun _ hn => delayAfter?_unwaiting hn)
  refine honce.imp_right ?_
  intro ⟨hended, hsettled⟩
  have hsettledLater : keys.foldl (policy.settle retry effect) (view later.state, false) =
      (of (policy.unwaiting.executeAll retry (keys.map plain) session).2.state, false) := by
    rw [hsame]
    exact hsettled
  have hmade := executeAll_delivers hlossy horder keys later hlater (fun key _ => hleft key)
    (.inl (congrArg Prod.snd hsettledLater))
  have hstillValid : (policy.executeAll retry (keys.map lossy) later).2.overflowed = false :=
    (overflowed_executeAll hmeasurable retry _ later).trans hvalid
  obtain ⟨hlaterEnded, hlaterSettled⟩ := hmade.resolve_left (by simp [hstillValid])
  refine ⟨hended, hlaterEnded, ?_⟩
  exact congrArg Prod.fst (hlaterSettled.symm.trans hsettledLater)

end RetryPolicy

end SearchStore
