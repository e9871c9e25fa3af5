import SearchStore.Proofs.Engine.Flights
import SearchStore.Proofs.Retry.Members

/-!
Cancellation of operations side by side, step by step. Each run is compared with
the one in which nothing cancels. As long as no step finds itself cancelled the two
go forward together; the first one that does ends its operation as cancelled, and
from then on no attempt is started.

So either nothing is disturbed, and then every attempt has arrived before
cancellation fires, or with the last one; or some operation ends as cancelled, and
the calls made are the first ones of those that would be made otherwise.
-/

namespace SearchStore

variable {κ σ τ ε α : Type}

namespace Task

def quietTasks (tasks : List (κ × Task ε α)) : List (κ × Task ε α) :=
  tasks.map fun task => (task.1, task.2.quiet)

theorem nextDue_quiet (operation other : κ → Operation τ ε α) (tasks : List (κ × Task ε α)) :
    nextDue (members other (quietTasks tasks)) = nextDue (members operation tasks) := by
  induction tasks with
  | nil => rfl
  | cons first rest ih =>
    simp only [members, quietTasks, List.map_cons, nextDue, due_quiet, result?_quiet] at ih ⊢
    rw [ih]

section Together

variable {policy : RetryPolicy} {retry : ε → Bool} {operation : κ → Operation τ ε α}
  {engine : Engine σ} {view : τ → EngineState σ} {callOf : κ → τ → Engine.Call}
  {beside : Engine.Call → Engine.Call → Prop}

/-- An attempt is under way whose answer arrives when that of a flight does. -/
def IsAloft (callOf : κ → τ → Engine.Call) (tasks : List (κ × Task ε α)) (flight : Flight) : Prop :=
  ∃ member ∈ tasks, ∃ n attempt state, member.2 = ⟨flight.finish, .running n attempt⟩ ∧
    attempt.cancels = flight.cancels ∧ callOf member.1 state = flight.call

/-- What is known of operations side by side while nothing is disturbed. -/
structure Underway (engine : Engine σ) (view : τ → EngineState σ) (callOf : κ → τ → Engine.Call)
    (beside : Engine.Call → Engine.Call → Prop) (begun : Session τ)
    (tasks : List (κ × Task ε α)) (session : Session τ) (flights : List Flight) : Prop where
  flew : Session.Flew engine beside (begun.map view) (session.map view) flights
  due_le : ∀ member ∈ tasks, member.2.result? = none → session.now ≤ member.2.due
  aloft_or_landed : ∀ flight ∈ flights,
    IsAloft callOf tasks flight ∨ flight.Landed (begun.map view) (session.map view)

def AllBeside (callOf : κ → τ → Engine.Call) (beside : Engine.Call → Engine.Call → Prop)
    (keys : List κ) : Prop :=
  keys.Pairwise fun key other => ∀ state later,
    beside (callOf key state) (callOf other later) ∧ beside (callOf other later) (callOf key state)

section Step

variable {begun session : Session τ} {before after : List (κ × Task ε α)} {key : κ}
  {flights : List Flight}

theorem AllBeside.of_mem {task : Task ε α}
    (h : AllBeside callOf beside ((before ++ (key, task) :: after).map Prod.fst))
    {member : κ × Task ε α} (hmember : member ∈ before ∨ member ∈ after) (state later : τ) :
    beside (callOf member.1 state) (callOf key later) := by
  rw [AllBeside, List.map_append, List.map_cons, List.pairwise_append, List.pairwise_cons] at h
  obtain ⟨-, ⟨hafter, -⟩, hbefore⟩ := h
  rcases hmember with hmem | hmem
  · exact (hbefore _ (List.mem_map_of_mem hmem) key List.mem_cons_self state later).1
  · exact (hafter _ (List.mem_map_of_mem hmem) later state).2

/-- The start of an attempt. -/
theorem Underway.starting {due n : Nat}
    (h : Underway engine view callOf beside begun
      (before ++ (key, ⟨due, .starting n⟩) :: after) session flights)
    (hmakes : engine.Makes view (callOf key) (operation key))
    (hbeside : AllBeside callOf beside
      ((before ++ (key, (⟨due, .starting n⟩ : Task ε α)) :: after).map Prod.fst))
    (hdue : FallsDue operation before key ⟨due, .starting n⟩ after)
    (hfree : session.cancelledBy due = none) :
    ∃ later, Underway engine view callOf beside begun
      (before ++ (key, ((⟨due, .starting n⟩ : Task ε α).step policy retry
        (operation key) session).1) :: after)
      ((⟨due, .starting n⟩ : Task ε α).step policy retry (operation key) session).2 later := by
  have hnow : session.now ≤ due := h.due_le (key, ⟨due, .starting n⟩) (by simp) rfl
  have huncancelled := Session.isCancelled_of_cancelledBy_eq_none hfree hnow
  rw [step_starting_of_free hfree]
  refine ⟨flights ++ [engine.flight (callOf key session.state) due (view session.state).engine],
    h.flew.attempt hnow hfree _ ?_ rfl rfl (hmakes.state_eq n due session.state),
    le_due_replaced hdue.least fun _ => Nat.le_add_right _ _, ?_⟩
  · intro flight hflight hcancels
    rcases h.aloft_or_landed flight hflight with haloft | hlanded
    · -- The attempt that cancels is that of another operation, and so not over yet.
      obtain ⟨member, hmember, m, attempt, state, htask, -, hcall⟩ := haloft
      have hother := mem_of_ne_middle hmember (by simp [htask])
      have hle := hdue.least member hmember (by rw [htask]; rfl)
      rw [htask] at hle
      rw [← hcall]
      exact ⟨hle, hbeside.of_mem hother state session.state⟩
    · exact absurd (hlanded.last hcancels).1 (by simpa using huncancelled)
  · intro flight hflight
    rcases List.mem_append.mp hflight with hold | hnew
    · rcases h.aloft_or_landed flight hold with haloft | hlanded
      · left
        obtain ⟨member, hmember, m, attempt, state, htask, hsame⟩ := haloft
        have hother := mem_of_ne_middle hmember (by simp [htask])
        exact ⟨member, mem_replaced hother _, m, attempt, state, htask, hsame⟩
      · exact .inr (hlanded.of_free huncancelled hnow)
    · left
      rw [List.mem_singleton.mp hnew]
      refine ⟨_, List.mem_append_right _ List.mem_cons_self, n, _, session.state, ?_,
        (hmakes.flight_cancels_eq n due session.state).symm, rfl⟩
      rw [hmakes.finish_eq n due session.state]

/-- The end of an attempt. -/
theorem Underway.running {due n : Nat} {ended : Attempt ε α}
    (h : Underway engine view callOf beside begun
      (before ++ (key, ⟨due, .running n ended⟩) :: after) session flights)
    (hdue : FallsDue operation before key ⟨due, .running n ended⟩ after)
    (hfree : session.cancelledBy due = none) :
    Underway engine view callOf beside begun
      (before ++ (key, ((⟨due, .running n ended⟩ : Task ε α).step policy retry
        (operation key) session).1) :: after)
      ((⟨due, .running n ended⟩ : Task ε α).step policy retry (operation key) session).2
      flights := by
  have hnow : session.now ≤ due := h.due_le (key, ⟨due, .running n ended⟩) (by simp) rfl
  have huncancelled := Session.isCancelled_of_cancelledBy_eq_none hfree hnow
  have hsame : session.cancelledAt = begun.cancelledAt :=
    h.flew.cancelledAt_eq.resolve_left (by simpa using huncancelled)
  rw [step_running_of_free hfree]
  generalize (policy.triesAgain retry n ended.outcome && (policy.delayAfter? n).isNone) = overflows
  have hclock : (endOfAttempt ended due overflows session).now = due := now_endOfAttempt ..
  constructor
  · apply h.flew.advance
    · exact congrArg view (state_endOfAttempt ..)
    · rw [Session.now_map, Session.now_map, hclock]
      exact hnow
    · cases hcancels : ended.cancels with
      | true => exact .inl (isCancelled_endOfAttempt ended due overflows session hcancels)
      | false => exact .inr ((cancelledAt_endOfAttempt _ _ _ _ hcancels).trans hsame)
  · rw [hclock]
    exact le_due_replaced hdue.least fun _ =>
      due_afterAttempt_ge policy retry n due ended.outcome
  · intro flight hflight
    rcases h.aloft_or_landed flight hflight with haloft | hlanded
    · obtain ⟨member, hmember, m, attempt, state, htask, hcancels, hcall⟩ := haloft
      rcases List.mem_append.mp hmember with hbefore | hrest
      · exact .inl
          ⟨member, mem_replaced (.inl hbefore) _, m, attempt, state, htask, hcancels, hcall⟩
      · rcases List.mem_cons.mp hrest with rfl | hafter
        · -- It is the answer to this attempt that arrives.
          right
          obtain ⟨rfl, rfl, rfl⟩ : due = flight.finish ∧ n = m ∧ ended = attempt := by
            simpa using htask
          constructor
          · exact Nat.le_of_eq hclock.symm
          · intro instant hinstant
            exact Session.lt_of_cancelledBy_eq_none hfree (hsame.trans hinstant)
          · intro hcancelled
            exact ⟨isCancelled_endOfAttempt ended _ overflows session (hcancels.trans hcancelled),
              hclock.symm⟩
        · exact .inl
            ⟨member, mem_replaced (.inr hafter) _, m, attempt, state, htask, hcancels, hcall⟩
    · refine .inr (hlanded.of_free huncancelled ?_)
      rw [Session.now_map, Session.now_map, hclock]
      exact hnow

end Step

/-- A step puts calls on record at most. -/
theorem goesOnTo_step {operation : Operation τ ε α} {callOf : τ → Engine.Call}
    (hmakes : engine.Makes view callOf operation) (task : Task ε α) (session : Session τ) :
    (session.map view).GoesOnTo ((task.step policy retry operation session).2.map view) := by
  refine ⟨?_, overflowed_step_of_overflowed policy retry operation task session⟩
  cases hfires : session.cancelledBy task.due with
  | some instant =>
    cases hresult : task.result? with
    | none =>
      rw [step_of_cancelledBy_eq_some hresult hfires]
      exact List.suffix_refl _
    | some result =>
      rw [eq_of_result?_eq_some hresult]
      exact List.suffix_refl _
  | none =>
    obtain ⟨due, stage⟩ := task
    cases stage with
    | ended result => exact List.suffix_refl _
    | starting n =>
      rw [step_starting_of_free hfires]
      simp only [Session.map, hmakes.state_eq]
      exact List.suffix_cons _ _
    | running n attempt =>
      rw [step_running_of_free hfires]
      simp only [Session.map, state_endOfAttempt]
      exact List.suffix_refl _

variable (hmakes : ∀ key, engine.Makes view (callOf key) (operation key))
include hmakes

theorem goesOnTo_runAll (policy : RetryPolicy) (retry : ε → Bool) (tasks : List (κ × Task ε α))
    (session : Session τ) :
    (session.map view).GoesOnTo
      ((runAll policy retry (members operation tasks) session).2.map view) := by
  obtain ⟨ended, final, -, hkept, hrun⟩ := runAll_members_induction policy retry
    (P := fun _ later => (session.map view).GoesOnTo (later.map view))
    (fun _ key task _ later (_ : FallsDue operation _ key task _) hknown =>
      hknown.trans (goesOnTo_step (hmakes key) task later))
    tasks session (.refl _)
  rw [hrun]
  exact hkept

/-- Operations side by side and the same ones where nothing cancels go forward together. -/
structure Lockstep (policy : RetryPolicy) (retry : ε → Bool) (operation : κ → Operation τ ε α)
    (engine : Engine σ) (view : τ → EngineState σ) (callOf : κ → τ → Engine.Call)
    (beside : Engine.Call → Engine.Call → Prop) (begun : Session τ)
    (plain : List (Option (Except (RetryFailure ε) α)) × Session τ)
    (tasks : List (κ × Task ε α)) (session : Session τ) (flights : List Flight) : Prop where
  underway : Underway engine view callOf beside begun tasks session flights
  beside : AllBeside callOf beside (tasks.map Prod.fst)
  plain_eq : runAll policy retry (members (fun key => (operation key).quiet) (quietTasks tasks))
    session.quiet = plain

/-- An operation has ended as cancelled, and from then on nothing goes on. -/
structure Halted (engine : Engine σ) (view : τ → EngineState σ)
    (beside : Engine.Call → Engine.Call → Prop) (begun plain : Session τ)
    (tasks : List (κ × Task ε α)) (session : Session τ) (flights : List Flight) : Prop where
  flew : Session.Flew engine beside (begun.map view) (session.map view) flights
  isCancelled : session.isCancelled = true
  due_le : ∀ member ∈ tasks, member.2.result? = none → session.now ≤ member.2.due
  cancelled : ∃ member ∈ tasks, member.2.result? = some (.error .cancelled)
  goesOnTo : (session.map view).GoesOnTo (plain.map view)

section Step

variable {begun session : Session τ} {before after : List (κ × Task ε α)} {key : κ}
  {task : Task ε α} {flights : List Flight}

omit hmakes in
theorem Halted.step {plain : Session τ}
    (h : Halted engine view beside begun plain (before ++ (key, task) :: after) session flights)
    (hdue : FallsDue operation before key task after) :
    Halted engine view beside begun plain
      (before ++ (key, (task.step policy retry (operation key) session).1) :: after)
      (task.step policy retry (operation key) session).2 flights := by
  have hnow : session.now ≤ task.due := h.due_le (key, task) (by simp) hdue.unended
  rw [step_of_cancelledBy_eq_some hdue.unended
    (Session.cancelledBy_of_isCancelled h.isCancelled hnow)]
  exact {
    h with
    due_le := le_due_replaced h.due_le nofun
    cancelled := ⟨_, List.mem_append_right _ List.mem_cons_self, rfl⟩ }

/-- The first step that finds itself cancelled. -/
theorem Lockstep.halted {plain : List (Option (Except (RetryFailure ε) α)) × Session τ}
    (h : Lockstep policy retry operation engine view callOf beside begun plain
      (before ++ (key, task) :: after) session flights)
    (hdue : FallsDue operation before key task after) {instant : Nat}
    (hfires : session.cancelledBy task.due = some instant) :
    Halted engine view beside begun plain.2
      (before ++ (key, (task.step policy retry (operation key) session).1) :: after)
      (task.step policy retry (operation key) session).2 flights := by
  obtain ⟨hle, fired, hfired, hpast⟩ := Session.cancelledBy_eq_some hfires
  have hcancelled : ({ session with now := instant } : Session τ).isCancelled = true :=
    (Session.isCancelled_iff _).mpr ⟨fired, hfired, hpast⟩
  have hnow := h.underway.due_le (key, task) (by simp) hdue.unended
  have hinstant := Session.le_of_cancelledBy_eq_some hfires hnow
  rw [step_of_cancelledBy_eq_some hdue.unended hfires]
  constructor
  · exact h.underway.flew.advance rfl hle (.inl hcancelled)
  · exact hcancelled
  · have hleast (member) (hmember : member ∈ before ++ (key, task) :: after)
        (hunended : member.2.result? = none) : instant ≤ member.2.due :=
      Nat.le_trans hinstant (hdue.least member hmember hunended)
    exact le_due_replaced hleast nofun
  · exact ⟨_, List.mem_append_right _ List.mem_cons_self, rfl⟩
  · -- Without cancellation there would be more steps, and no fewer calls.
    have hgoes := goesOnTo_runAll (fun key => (hmakes key).quiet) policy retry
      (quietTasks (before ++ (key, task) :: after)) session.quiet
    rw [h.plain_eq] at hgoes
    exact ⟨hgoes.calls, hgoes.void⟩

/-- A step that does not find itself cancelled. -/
theorem Lockstep.step {plain : List (Option (Except (RetryFailure ε) α)) × Session τ}
    (h : Lockstep policy retry operation engine view callOf beside begun plain
      (before ++ (key, task) :: after) session flights)
    (hdue : FallsDue operation before key task after)
    (hfree : session.cancelledBy task.due = none) :
    ∃ later, Lockstep policy retry operation engine view callOf beside begun plain
      (before ++ (key, (task.step policy retry (operation key) session).1) :: after)
      (task.step policy retry (operation key) session).2 later := by
  have hplain : runAll policy retry (members (fun key => (operation key).quiet)
      (quietTasks (before ++ (key, (task.step policy retry (operation key) session).1) :: after)))
      (task.step policy retry (operation key) session).2.quiet = plain := by
    have hquiet (next : Task ε α) : quietTasks (before ++ (key, next) :: after) =
        quietTasks before ++ (key, next.quiet) :: quietTasks after := by simp [quietTasks]
    have hplace : before.length = (quietTasks before).length := by simp [quietTasks]
    have hnext := (nextDue_quiet operation (fun key => (operation key).quiet) _).trans
      hdue.nextDue_eq
    rw [← h.plain_eq, runAll_of_nextDue_eq_some policy retry hnext, hquiet, hquiet, hplace,
      stepAt_members, step_quiet hfree]
  have hkeys : AllBeside callOf beside
      ((before ++ (key, (task.step policy retry (operation key) session).1) :: after).map
        Prod.fst) := by
    simpa using h.beside
  obtain ⟨due, stage⟩ := task
  cases stage with
  | ended result => exact nomatch hdue.unended
  | starting n =>
    obtain ⟨later, hlater⟩ := h.underway.starting (hmakes key) h.beside hdue hfree
    exact ⟨later, hlater, hkeys, hplain⟩
  | running n attempt => exact ⟨flights, h.underway.running hdue hfree, hkeys, hplain⟩

end Step

end Together

end Task

namespace RetryPolicy

variable (policy : RetryPolicy) (retry : ε → Bool) {engine : Engine σ}
  {view : τ → EngineState σ} {beside : Engine.Call → Engine.Call → Prop}

/-- Either nothing is disturbed, or an operation ends as cancelled. -/
theorem executeAll_sameUnlessStopped {operation : κ → Operation τ ε α}
    {callOf : κ → τ → Engine.Call}
    (hmakes : ∀ key, engine.Makes view (callOf key) (operation key)) (keys : List κ)
    (hbeside : Task.AllBeside callOf beside keys) (session : Session τ) :
    (session.map view).SameUnlessStopped engine beside (some (.error .cancelled) ∈ ·)
      ((policy.executeAll retry (keys.map operation) session).1,
        (policy.executeAll retry (keys.map operation) session).2.map view)
      ((policy.executeAll retry (keys.map fun key => (operation key).quiet) session.quiet).1,
        (policy.executeAll retry (keys.map fun key => (operation key).quiet)
          session.quiet).2.map view) := by
  have hquiet : Task.quietTasks (Task.starting (ε := ε) (α := α) keys session.now) =
      Task.starting keys session.now := by
    simp only [Task.starting, Task.quietTasks, List.map_map]
    rfl
  generalize hplain : policy.executeAll retry (keys.map fun key => (operation key).quiet)
    session.quiet = plain
  have hstart : Task.Lockstep policy retry operation engine view callOf beside session plain
      (Task.starting keys session.now) session [] := by
    refine ⟨⟨.refl _, fun member hmember _ => ?_, by simp⟩, ?_, ?_⟩
    · rw [Task.mem_starting hmember]
      exact Nat.le_refl _
    · rwa [Task.map_fst_starting]
    · rw [hquiet, ← hplain, executeAll, Task.members_starting]
      rfl
  obtain ⟨ended, final, hended, ⟨flights, hkept⟩, hrun⟩ := Task.runAll_members_induction policy
    retry
    (P := fun tasks later => ∃ flights,
      Task.Lockstep policy retry operation engine view callOf beside session plain tasks later
          flights ∨
        Task.Halted engine view beside session plain.2 tasks later flights)
    (by
      rintro before key task after later hdue ⟨flights, hlockstep | hhalted⟩
      · cases hfires : later.cancelledBy task.due with
        | none =>
          obtain ⟨flights, hnext⟩ := hlockstep.step hmakes hdue hfires
          exact ⟨flights, .inl hnext⟩
        | some instant => exact ⟨flights, .inr (hlockstep.halted hmakes hdue hfires)⟩
      · exact ⟨flights, .inr (hhalted.step hdue)⟩)
    (Task.starting keys session.now) session ⟨[], .inl hstart⟩
  have hran : policy.executeAll retry (keys.map operation) session =
      (ended.map fun task => task.2.result?, final) := by
    rw [executeAll, Task.members_starting, hrun]
  rw [hran]
  refine ⟨flights, ?_⟩
  rcases hkept with hlockstep | hhalted
  · refine ⟨hlockstep.underway.flew, .inl ⟨?_, ?_⟩⟩
    · intro flight hflight
      refine (hlockstep.underway.aloft_or_landed flight hflight).resolve_left ?_
      rintro ⟨member, hmember, n, attempt, state, htask, -⟩
      have hresult := Task.isSome_result?_of_mem hended
        (List.mem_map_of_mem (f := fun task => (operation task.1, task.2)) hmember)
      rw [htask] at hresult
      cases hresult
    · -- The run without cancellation has come to its end as well.
      have hplainEnded := (Task.nextDue_quiet operation
        (fun key => (operation key).quiet) ended).trans hended
      rw [← hlockstep.plain_eq, Task.runAll_of_nextDue_eq_none policy retry hplainEnded]
      simp only [Task.members, Task.quietTasks, List.map_map, Function.comp_def,
        Task.result?_quiet]
      rfl
  · obtain ⟨member, hmember, hresult⟩ := hhalted.cancelled
    exact ⟨hhalted.flew, .inr ⟨List.mem_map.mpr ⟨member, hmember, hresult⟩, hhalted.isCancelled,
      hhalted.goesOnTo⟩⟩

variable (beside) in
/-- Either nothing is disturbed, or the operation ends as cancelled. No attempt starts
any more when one has come with cancellation. -/
theorem execute_sameUnlessStopped {operation : Operation τ ε α} {callOf : τ → Engine.Call}
    (hmakes : engine.Makes view callOf operation) (session : Session τ) :
    (session.map view).SameUnlessStopped engine beside (· = .error .cancelled)
      ((policy.execute retry operation session).1,
        (policy.execute retry operation session).2.map view)
      ((policy.execute retry operation.quiet session.quiet).1,
        (policy.execute retry operation.quiet session.quiet).2.map view) := by
  have hone : Task.AllBeside (fun _ : Unit => callOf) beside [()] := List.pairwise_singleton _ _
  obtain ⟨flights, hflew, hend⟩ := executeAll_sameUnlessStopped policy retry
    (fun _ : Unit => hmakes) [()] hone session
  simp only [List.map_cons, List.map_nil, executeAll_singleton] at hflew hend
  refine ⟨flights, hflew, hend.imp (fun ⟨hlanded, hsame⟩ => ?_) fun ⟨hstopped, hrest⟩ => ?_⟩
  · rw [Prod.mk.injEq] at hsame
    simp only [List.cons.injEq, Option.some.injEq, and_true] at hsame
    exact ⟨hlanded, Prod.ext hsame.1 hsame.2⟩
  · simp only [List.mem_singleton, Option.some.injEq] at hstopped
    exact ⟨hstopped.symm, hrest⟩

/-- An operation puts calls on record at most. -/
theorem goesOnTo_execute {operation : Operation τ ε α} {callOf : τ → Engine.Call}
    (hmakes : engine.Makes view callOf operation) (session : Session τ) :
    (session.map view).GoesOnTo ((policy.execute retry operation session).2.map view) := by
  obtain ⟨_, hended⟩ := Task.run_invariant policy retry operation
    (P := fun _ later => (session.map view).GoesOnTo (later.map view))
    (fun task later hknown => hknown.trans (Task.goesOnTo_step hmakes task later))
    (Task.startingAt session.now) session (.refl _)
  exact hended

theorem goesOnTo_executeAll {operation : κ → Operation τ ε α} {callOf : κ → τ → Engine.Call}
    (hmakes : ∀ key, engine.Makes view (callOf key) (operation key)) (keys : List κ)
    (session : Session τ) :
    (session.map view).GoesOnTo
      ((policy.executeAll retry (keys.map operation) session).2.map view) := by
  have hstarting := Task.members_starting operation keys session.now
  rw [executeAll, hstarting]
  exact Task.goesOnTo_runAll hmakes policy retry _ session

/-- Once cancelled, operations side by side do nothing. -/
theorem executeAll_of_isCancelled (operation : κ → Operation τ ε α) (keys : List κ)
    (session : Session τ) (h : session.isCancelled = true) :
    (policy.executeAll retry (keys.map operation) session).2 = session := by
  obtain ⟨ended, final, -, ⟨hfinal, -⟩, hrun⟩ := Task.runAll_members_induction policy retry
    (P := fun tasks later => later = session ∧
      ∀ member ∈ tasks, member.2.result? = none → session.now ≤ member.2.due)
    (by
      rintro before key task after _ (hdue : Task.FallsDue operation before key task after)
        ⟨rfl, hle⟩
      have hnow := hle (key, task) (by simp) hdue.unended
      rw [Task.step_of_cancelledBy_eq_some hdue.unended
        (Session.cancelledBy_of_isCancelled h hnow)]
      exact ⟨rfl, Task.le_due_replaced hle nofun⟩)
    (Task.starting keys session.now) session
    ⟨rfl, fun member hmember _ => by
      rw [Task.mem_starting hmember]
      exact Nat.le_refl _⟩
  rw [executeAll, Task.members_starting, hrun]
  exact hfinal

end RetryPolicy

end SearchStore
