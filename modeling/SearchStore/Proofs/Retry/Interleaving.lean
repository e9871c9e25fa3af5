import SearchStore.Proofs.Repository.Exchange
import SearchStore.Proofs.Retry.Members
import SearchStore.Proofs.Retry.Quiet

/-!
Operations side by side whose steps are taken in any order. Any operation that has not
ended may be the next to take its step, at any instant from the one at which it is due. To
take the step that falls due first is one such order.

In every order the attempts at one operation come one after the other. When all operations
have ended and cancellation has not fired, each one has been attempted at least once and at
most as often as the policy allows.
-/

namespace SearchStore

variable {κ τ ε α : Type}

inductive Event (κ ε α : Type) where
  | began (key : κ) (instant : Nat)
  | ended (key : κ) (instant : Nat) (outcome : Except ε α)

namespace Event

def key : Event κ ε α → κ
  | began key _ | ended key _ _ => key

def instant : Event κ ε α → Nat
  | began _ instant | ended _ instant _ => instant

/-- The events are in the order of their instants, which lie between two others. -/
structure Timed (first last : Nat) (events : List (Event κ ε α)) : Prop where
  le : first ≤ last
  during : ∀ event ∈ events, first ≤ event.instant ∧ event.instant ≤ last
  ordered : events.Pairwise fun event next => event.instant ≤ next.instant

/-- Attempts at one operation, each of which begins when the one before it has ended. -/
inductive InTurn (key : κ) : List (Event κ ε α) → List (Except ε α) → Prop
  | none : InTurn key [] []
  | next {past : List (Event κ ε α)} {outcomes : List (Except ε α)} (h : InTurn key past outcomes)
      (beginning ending : Nat) (outcome : Except ε α) :
      InTurn key (past ++ [began key beginning, ended key ending outcome]) (outcomes ++ [outcome])

end Event

namespace Task

def putOff (task : Task ε α) (instant : Nat) : Task ε α := { task with due := instant }

def seen (key : κ) (task : Task ε α) (session : Session τ) : List (Event κ ε α) :=
  match session.cancelledBy task.due, task.stage with
  | none, .starting _ => [.began key task.due]
  | none, .running _ attempt => [.ended key task.due attempt.outcome]
  | _, _ => []

inductive Interleaving (policy : RetryPolicy) (retry : ε → Bool) (operation : κ → Operation τ ε α)
    (tasks : List (κ × Task ε α)) (session : Session τ) :
    List (κ × Task ε α) → Session τ → List (Event κ ε α) → Prop
  | start : Interleaving policy retry operation tasks session tasks session []
  | step {before after : List (κ × Task ε α)} {key : κ} {task : Task ε α} {later : Session τ}
      {events : List (Event κ ε α)} (instant : Nat)
      (h : Interleaving policy retry operation tasks session
        (before ++ (key, task) :: after) later events)
      (hunended : task.result? = none) (hdue : task.due ≤ instant) (hnow : later.now ≤ instant) :
      Interleaving policy retry operation tasks session
        (before ++
          (key, ((task.putOff instant).step policy retry (operation key) later).1) :: after)
        ((task.putOff instant).step policy retry (operation key) later).2
        (events ++ seen key (task.putOff instant) later)

section Steps

variable {policy : RetryPolicy} {retry : ε → Bool} {operation : Operation τ ε α} {task : Task ε α}
  {session : Session τ}

/-- A step that does not find itself cancelled is taken when it is due. -/
theorem now_step_of_free (hunended : task.result? = none)
    (hfree : session.cancelledBy task.due = none) :
    (task.step policy retry operation session).2.now = task.due := by
  obtain ⟨due, stage⟩ := task
  cases stage with
  | ended result => cases hunended
  | starting n => rw [step_starting_of_free hfree]
  | running n attempt => rw [step_running_of_free hfree, now_endOfAttempt]

variable (policy) (retry) (operation) in
/-- The clock does not go beyond the step that is taken. -/
theorem now_step_le (hunended : task.result? = none) (hnow : session.now ≤ task.due) :
    (task.step policy retry operation session).2.now ≤ task.due := by
  cases hfires : session.cancelledBy task.due with
  | none => exact Nat.le_of_eq (now_step_of_free hunended hfires)
  | some instant =>
    rw [step_of_cancelledBy_eq_some hunended hfires]
    exact Session.le_of_cancelledBy_eq_some hfires hnow

section Seen

variable {key other : κ} {event : Event κ ε α}

/-- Only a step is seen that does not find itself cancelled, and when it is due. -/
theorem of_mem_seen (h : event ∈ seen key task session) :
    session.cancelledBy task.due = none ∧ event.key = key ∧ event.instant = task.due := by
  unfold seen at h
  split at h
  · next hfree hstage =>
    rw [List.mem_singleton] at h
    subst h
    exact ⟨hfree, rfl, rfl⟩
  · next hfree hstage =>
    rw [List.mem_singleton] at h
    subst h
    exact ⟨hfree, rfl, rfl⟩
  · simp at h

theorem pairwise_seen (relation : Event κ ε α → Event κ ε α → Prop) :
    (seen key task session).Pairwise relation := by
  unfold seen
  split
  · exact List.pairwise_singleton _ _
  · exact List.pairwise_singleton _ _
  · exact .nil

variable [DecidableEq κ]

theorem filter_seen_self :
    (seen key task session).filter (·.key = key) = seen key task session := by
  rw [List.filter_eq_self]
  intro event hevent
  exact decide_eq_true (of_mem_seen hevent).2.1

theorem filter_seen_of_ne (hne : key ≠ other) :
    (seen key task session).filter (·.key = other) = [] := by
  rw [List.filter_eq_nil_iff]
  intro event hevent hkey
  exact hne ((of_mem_seen hevent).2.1.symm.trans (of_decide_eq_true hkey))

end Seen

def StandsAfter (policy : RetryPolicy) (key : κ) (events : List (Event κ ε α))
    (task : Task ε α) : Prop :=
  match task.stage with
  | .starting n => ∃ outcomes, Event.InTurn key events outcomes ∧
      outcomes.length + 1 = n ∧ n ≤ policy.maxAttempts ∧ ∀ o ∈ outcomes, ∃ e, o = .error e
  | .running n _ => ∃ past instant outcomes, events = past ++ [.began key instant] ∧
      Event.InTurn key past outcomes ∧
      outcomes.length + 1 = n ∧ n ≤ policy.maxAttempts ∧ ∀ o ∈ outcomes, ∃ e, o = .error e
  | .ended _ => ∃ outcomes last, Event.InTurn key events outcomes ∧
      Tried policy.maxAttempts outcomes last

theorem standsAfter_startingAt (policy : RetryPolicy) (key : κ) (instant : Nat) :
    StandsAfter policy key ([] : List (Event κ ε α)) (startingAt instant) :=
  ⟨[], .none, rfl, policy.maxAttempts_pos, by simp⟩

/-- What a step that does not find itself cancelled adds to what was seen. -/
theorem StandsAfter.step {key : κ} {events : List (Event κ ε α)}
    (h : StandsAfter policy key events task) (hunended : task.result? = none)
    (hfree : session.cancelledBy task.due = none) :
    StandsAfter policy key (events ++ seen key task session)
      (task.step policy retry operation session).1 := by
  obtain ⟨due, stage⟩ := task
  have hfree' : session.cancelledBy due = none := hfree
  cases stage with
  | ended result => cases hunended
  | starting n =>
    obtain ⟨outcomes, hturn, hlength, hle, hfailed⟩ := h
    have hseen : seen key ⟨due, .starting n⟩ session =
        ([.began key due] : List (Event κ ε α)) := by
      simp [seen, hfree']
    rw [step_starting_of_free hfree, hseen]
    exact ⟨events, due, outcomes, rfl, hturn, hlength, hle, hfailed⟩
  | running n attempt =>
    obtain ⟨past, beginning, outcomes, rfl, hturn, hlength, hle, hfailed⟩ := h
    have hseen : seen key ⟨due, .running n attempt⟩ session =
        [.ended key due attempt.outcome] := by
      simp [seen, hfree']
    have hnext := hturn.next beginning due attempt.outcome
    rw [step_running_of_free hfree, hseen, List.append_assoc]
    cases hdelay : policy.nextDelay? retry n attempt.outcome with
    | none =>
      have hended : afterAttempt policy retry n due attempt.outcome =
          ⟨due, .ended (attempt.outcome.mapError .failed)⟩ := by
        simp [afterAttempt, hdelay]
      rw [hended]
      refine ⟨outcomes ++ [attempt.outcome], attempt.outcome, hnext, ⟨_, rfl, hfailed⟩, ?_⟩
      rw [List.length_append, List.length_singleton]
      omega
    | some delay =>
      obtain ⟨error, herror, -⟩ := RetryPolicy.exists_error_of_nextDelay?_eq_some hdelay
      have hagain : afterAttempt policy retry n due attempt.outcome =
          ⟨due + min delay longestSleep, .starting (n + 1)⟩ := by
        simp [afterAttempt, hdelay]
      have hbound := RetryPolicy.lt_of_nextDelay?_eq_some hdelay
      rw [hagain]
      refine ⟨outcomes ++ [attempt.outcome], hnext, ?_, hbound, ?_⟩
      · rw [List.length_append, List.length_singleton]
        omega
      · intro o ho
        rcases List.mem_append.mp ho with hearlier | hlast
        · exact hfailed o hearlier
        · rw [List.mem_singleton] at hlast
          exact ⟨error, hlast.trans herror⟩

end Steps

namespace Interleaving

variable {policy : RetryPolicy} {retry : ε → Bool} {operation : κ → Operation τ ε α}
  {tasks ended : List (κ × Task ε α)} {session final : Session τ} {events : List (Event κ ε α)}

theorem map_fst_eq (h : Interleaving policy retry operation tasks session ended final events) :
    ended.map Prod.fst = tasks.map Prod.fst := by
  induction h with
  | start => rfl
  | step instant _ _ _ _ ih => simpa using ih

theorem isCancelled (h : Interleaving policy retry operation tasks session ended final events)
    (hcancelled : session.isCancelled = true) : final.isCancelled = true := by
  induction h with
  | start => exact hcancelled
  | @step _ _ key task _ _ instant _ hunended _ hnow ih =>
    have hstill : (task.putOff instant).result? = none := hunended
    have hkept := sessionKept_step policy retry (operation key) hstill hnow
    exact hkept.stays_cancelled ih

theorem overflowed_eq (hmeasurable : policy.IsMeasurable)
    (h : Interleaving policy retry operation tasks session ended final events) :
    final.overflowed = session.overflowed := by
  induction h with
  | start => rfl
  | @step _ _ key task later _ instant _ _ _ _ ih =>
    rw [overflowed_step policy retry (operation key) hmeasurable, ih]

/-- Where no attempt cancels a session stays uncancelled. -/
theorem cancelledAt_eq (hcalm : ∀ key n now state, (operation key n now state).1.cancels = false)
    (h : Interleaving policy retry operation tasks session ended final events)
    (hstart : ∀ member ∈ tasks, member.2.IsCalm) (huncancelled : session.cancelledAt = none) :
    final.cancelledAt = none := by
  have hall : final.cancelledAt = none ∧ ∀ member ∈ ended, member.2.IsCalm := by
    induction h with
    | start => exact ⟨huncancelled, hstart⟩
    | @step before after key task later _ instant _ _ _ _ ih =>
      obtain ⟨hlater, hmembers⟩ := ih
      have htask := hmembers (key, task) (List.mem_append_right _ List.mem_cons_self)
      have hstill : (task.putOff instant).IsCalm := htask
      obtain ⟨hnone, hnext⟩ := isCalm_step policy retry hlater (hcalm key) hstill
      refine ⟨hnone, ?_⟩
      intro member hmember
      rcases List.mem_append.mp hmember with hbefore | hrest
      · exact hmembers member (mem_replaced (.inl hbefore) task)
      · rcases List.mem_cons.mp hrest with rfl | hafter
        · exact hnext
        · exact hmembers member (mem_replaced (.inr hafter) task)
  exact hall.1

/-- What an attempt makes of the state, with the events that were seen. -/
theorem keeps {P : List (Event κ ε α) → τ → Prop}
    (hbegan : ∀ events key n instant state, P events state →
      P (events ++ [.began key instant]) (operation key n instant state).2)
    (hended : ∀ events key instant outcome state, P events state →
      P (events ++ [.ended key instant outcome]) state)
    (h : Interleaving policy retry operation tasks session ended final events)
    (hstart : P [] session.state) : P events final.state := by
  induction h with
  | start => exact hstart
  | @step _ _ key task later events instant _ hunended _ _ ih =>
    obtain ⟨due, stage⟩ := task
    cases hfires : later.cancelledBy instant with
    | some fired =>
      have hnothing : seen key (putOff ⟨due, stage⟩ instant) later = [] := by
        simp [seen, putOff, hfires]
      have hstill : (putOff ⟨due, stage⟩ instant : Task ε α).result? = none := hunended
      rw [hnothing, List.append_nil, step_of_cancelledBy_eq_some hstill hfires]
      exact ih
    | none =>
      cases stage with
      | ended result => cases hunended
      | starting n =>
        have hseen : seen key (putOff (⟨due, .starting n⟩ : Task ε α) instant) later =
            [.began key instant] := by
          simp [seen, putOff, hfires]
        rw [hseen, putOff, step_starting_of_free hfires]
        exact hbegan _ key n instant _ ih
      | running n attempt =>
        have hseen : seen key (putOff (⟨due, .running n attempt⟩ : Task ε α) instant) later =
            [.ended key instant attempt.outcome] := by
          simp [seen, putOff, hfires]
        rw [hseen, putOff, step_running_of_free hfires, state_endOfAttempt]
        exact hended _ key instant _ _ ih

/-- Steps are seen in the order of time. -/
theorem timed (h : Interleaving policy retry operation tasks session ended final events) :
    Event.Timed session.now final.now events := by
  induction h with
  | start => exact ⟨Nat.le_refl _, by simp, .nil⟩
  | @step _ _ key task later events instant _ hunended _ hnow ih =>
    have hstill : (task.putOff instant).result? = none := hunended
    have hkept := sessionKept_step policy retry (operation key) hstill hnow
    have hlater := hkept.now_le
    have hnew (event : Event κ ε α) (hevent : event ∈ seen key (task.putOff instant) later) :
        event.instant = instant ∧
          ((task.putOff instant).step policy retry (operation key) later).2.now = instant := by
      obtain ⟨hfree, -, hinstant⟩ := of_mem_seen hevent
      exact ⟨hinstant, now_step_of_free hunended hfree⟩
    -- Only a step that is taken when it is due is seen, and then the clock shows its instant.
    constructor
    · exact Nat.le_trans ih.le hlater
    · intro event hevent
      rcases List.mem_append.mp hevent with hold | hseen
      · obtain ⟨hfirst, hlast⟩ := ih.during event hold
        exact ⟨hfirst, Nat.le_trans hlast hlater⟩
      · obtain ⟨hinstant, hclock⟩ := hnew event hseen
        have hfirst := ih.le
        omega
    · rw [List.pairwise_append]
      refine ⟨ih.ordered, pairwise_seen _, ?_⟩
      intro event hold next hseen
      obtain ⟨-, hlast⟩ := ih.during event hold
      obtain ⟨hinstant, -⟩ := hnew next hseen
      omega

variable [DecidableEq κ]

omit [DecidableEq κ] in
theorem ne_of_nodup {before after : List (κ × Task ε α)} {key : κ} {task : Task ε α}
    (h : ((before ++ (key, task) :: after).map Prod.fst).Nodup) {member : κ × Task ε α}
    (hmember : member ∈ before ∨ member ∈ after) : key ≠ member.1 := by
  rw [List.map_append, List.map_cons, List.nodup_append, List.nodup_cons] at h
  obtain ⟨-, ⟨hafter, -⟩, hbefore⟩ := h
  intro heq
  rcases hmember with hthere | hthere
  · exact hbefore member.1 (List.mem_map_of_mem hthere) key List.mem_cons_self heq.symm
  · have hmem : member.1 ∈ after.map Prod.fst := List.mem_map_of_mem hthere
    rw [← heq] at hmem
    exact hafter hmem

/-- Where every operation stands while cancellation has not fired. -/
theorem standsAfter (h : Interleaving policy retry operation tasks session ended final events)
    (hnodup : (tasks.map Prod.fst).Nodup)
    (hstart : ∀ member ∈ tasks, StandsAfter policy member.1 [] member.2)
    (hfinal : final.isCancelled = false) :
    ∀ member ∈ ended,
      StandsAfter policy member.1 (events.filter (·.key = member.1)) member.2 := by
  induction h with
  | start => exact hstart
  | @step before after key task later events instant hpast hunended _ hnow ih =>
    have hstill : (task.putOff instant).result? = none := hunended
    have hkept := sessionKept_step policy retry (operation key) hstill hnow
    -- A cancellation is not taken back, so neither this step nor an earlier one met it.
    have hlater : later.isCancelled = false := by
      rw [Bool.eq_false_iff]
      intro hcancelled
      rw [hkept.stays_cancelled hcancelled] at hfinal
      cases hfinal
    have hfree : later.cancelledBy instant = none :=
      cancelledBy_eq_none_of_step hstill hfinal
    have hothers (member : κ × Task ε α) (hmember : member ∈ before ∨ member ∈ after) :
        StandsAfter policy member.1
          ((events ++ seen key (task.putOff instant) later).filter (·.key = member.1))
          member.2 := by
      rw [← hpast.map_fst_eq] at hnodup
      rw [List.filter_append, filter_seen_of_ne (ne_of_nodup hnodup hmember), List.append_nil]
      exact ih hlater member (mem_replaced hmember task)
    intro member hmember
    rcases List.mem_append.mp hmember with hbefore | hrest
    · exact hothers member (.inl hbefore)
    · rcases List.mem_cons.mp hrest with rfl | hafter
      · have hthis := ih hlater (key, task) (List.mem_append_right _ List.mem_cons_self)
        rw [List.filter_append, filter_seen_self]
        have hput : StandsAfter policy key (events.filter (·.key = key)) (task.putOff instant) :=
          hthis
        exact hput.step hstill hfree
      · exact hothers member (.inr hafter)

/-- When all have ended and cancellation has not fired, each has been attempted as often as
it had to be, one attempt after the other. -/
theorem inTurn {keys : List κ} {instant : Nat}
    (h : Interleaving policy retry operation (starting keys instant) session ended final events)
    (hnodup : keys.Nodup) (hended : ∀ member ∈ ended, member.2.result?.isSome)
    (hfinal : final.isCancelled = false) {key : κ} (hkey : key ∈ keys) :
    ∃ outcomes last, Event.InTurn key (events.filter (·.key = key)) outcomes ∧
      Tried policy.maxAttempts outcomes last := by
  have hkeys := h.map_fst_eq
  rw [map_fst_starting] at hkeys
  have hstart (member : κ × Task ε α) (hmember : member ∈ starting keys instant) :
      StandsAfter policy member.1 [] member.2 := by
    rw [mem_starting hmember]
    exact standsAfter_startingAt policy member.1 instant
  have hstands := h.standsAfter (by rwa [map_fst_starting]) hstart hfinal
  rw [← hkeys] at hkey
  obtain ⟨member, hmember, rfl⟩ := List.mem_map.mp hkey
  have hthis := hstands member hmember
  have hover := hended member hmember
  obtain ⟨place, due, stage⟩ := member
  cases stage with
  | starting n => cases hover
  | running n attempt => cases hover
  | ended result => exact hthis

end Interleaving

/-- To take the step that falls due first is an order like any other. -/
theorem runAll_interleaving (policy : RetryPolicy) (retry : ε → Bool)
    (operation : κ → Operation τ ε α) (keys : List κ) (session : Session τ) :
    ∃ ended final events,
      Interleaving policy retry operation (starting keys session.now) session ended final events ∧
      (∀ member ∈ ended, member.2.result?.isSome) ∧
      runAll policy retry (members operation (starting keys session.now)) session =
        (ended.map fun task => task.2.result?, final) := by
  have hdue (member : κ × Task ε α) (hmember : member ∈ starting keys session.now)
      (_ : member.2.result? = none) : session.now ≤ member.2.due := by
    rw [mem_starting hmember]
    exact Nat.le_refl _
  obtain ⟨ended, final, hnone, ⟨⟨events, hevents⟩, -⟩, hrun⟩ :=
    runAll_members_induction policy retry
      (P := fun all later =>
        (∃ events, Interleaving policy retry operation (starting keys session.now) session all
          later events) ∧
        ∀ member ∈ all, member.2.result? = none → later.now ≤ member.2.due)
      (by
        intro before key task after later (hfalls : FallsDue operation before key task after)
          hknown
        obtain ⟨⟨events, hevents⟩, hlater⟩ := hknown
        have hnow := hlater (key, task) (by simp) hfalls.unended
        have hkept := sessionKept_step policy retry (operation key) hfalls.unended hnow
        have hclock := now_step_le policy retry (operation key) hfalls.unended hnow
        have hleast (member : κ × Task ε α) (hmember : member ∈ before ++ (key, task) :: after)
            (hunended : member.2.result? = none) :
            (task.step policy retry (operation key) later).2.now ≤ member.2.due :=
          Nat.le_trans hclock (hfalls.least member hmember hunended)
        refine ⟨⟨_, hevents.step task.due hfalls.unended (Nat.le_refl _) hnow⟩, ?_⟩
        exact le_due_replaced hleast fun _ => hkept.due_le)
      (starting keys session.now) session ⟨⟨[], .start⟩, hdue⟩
  refine ⟨ended, final, events, hevents, ?_, hrun⟩
  intro member hmember
  exact isSome_result?_of_mem hnone (List.mem_map_of_mem (f := fun task =>
    (operation task.1, task.2)) hmember)

end Task

end SearchStore
