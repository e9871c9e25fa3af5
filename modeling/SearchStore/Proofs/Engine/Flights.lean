import SearchStore.Engine
import SearchStore.Proofs.Retry.Quiet

/-!
Attempts at calls in time. An attempt is in flight from the instant at which it
starts until its answer arrives; with the answer cancellation may fire. From the
states of an engine and the calls on record the flights are known: each state
decides how long an attempt made in it takes and what comes with the answer.
-/

namespace SearchStore

variable {σ τ ε α : Type}

structure Flight where
  call : Engine.Call
  start : Nat
  finish : Nat
  cancels : Bool

def Engine.flight (engine : Engine σ) (call : Engine.Call) (now : Nat) (state : σ) : Flight where
  call := call
  start := now
  finish := now + min (engine.respond call state).1.duration longestSleep
  cancels := (engine.respond call state).1.cancels

/-- A state comes of an earlier one by these attempts and no others, in the order
in which they start. -/
inductive EngineState.Flown (engine : Engine σ) (before : EngineState σ) :
    List Flight → EngineState σ → Prop
  | nil : Flown engine before [] before
  | attempt {flights : List Flight} {state : EngineState σ} (call : Engine.Call) (now : Nat)
      (h : Flown engine before flights state) :
      Flown engine before (flights ++ [engine.flight call now state.engine])
        (engine.attempt call now state).2

namespace EngineState.Flown

variable {engine : Engine σ} {before middle after : EngineState σ} {first second : List Flight}

theorem append (hfirst : Flown engine before first middle)
    (hsecond : Flown engine middle second after) :
    Flown engine before (first ++ second) after := by
  induction hsecond with
  | nil => simpa using hfirst
  | attempt call now _ ih =>
    rw [← List.append_assoc]
    exact .attempt call now ih

/-- The calls of the flights are on record, the last one first. -/
theorem calls_eq (h : Flown engine before first after) :
    after.calls = (first.map fun flight => (flight.start, flight.call)).reverse ++
      before.calls := by
  induction h with
  | nil => rfl
  | @attempt flights state call now _ ih =>
    have hcalls : (engine.attempt call now state).2.calls = (now, call) :: state.calls := rfl
    rw [hcalls, ih]
    simp [Engine.flight]

end EngineState.Flown

/-- An operation on states with a view of an engine, each attempt of which is one
attempt at a call that the state decides. -/
structure Engine.Makes (engine : Engine σ) (view : τ → EngineState σ) (callOf : τ → Engine.Call)
    (operation : Operation τ ε α) : Prop where
  state_eq : ∀ n now state, view (operation n now state).2 =
    (engine.attempt (callOf state) now (view state)).2
  duration_eq : ∀ n now state, (operation n now state).1.duration =
    (engine.respond (callOf state) (view state).engine).1.duration
  cancels_eq : ∀ n now state, (operation n now state).1.cancels =
    (engine.respond (callOf state) (view state).engine).1.cancels

namespace Engine.Makes

variable {engine : Engine σ} {view : τ → EngineState σ} {callOf : τ → Engine.Call}
  {operation : Operation τ ε α}

theorem finish_eq (h : engine.Makes view callOf operation) (n now : Nat) (state : τ) :
    (engine.flight (callOf state) now (view state).engine).finish =
      now + min (operation n now state).1.duration longestSleep := by
  rw [h.duration_eq]
  rfl

theorem flight_cancels_eq (h : engine.Makes view callOf operation) (n now : Nat) (state : τ) :
    (engine.flight (callOf state) now (view state).engine).cancels =
      (operation n now state).1.cancels := by
  rw [h.cancels_eq]
  rfl

end Engine.Makes

/-- The engine of which no answer comes with cancellation. -/
def Engine.quiet (engine : Engine σ) : Engine σ where
  respond call state := ((engine.respond call state).1.quiet, (engine.respond call state).2)

theorem Engine.Makes.quiet {engine : Engine σ} {view : τ → EngineState σ}
    {callOf : τ → Engine.Call} {operation : Operation τ ε α}
    (h : engine.Makes view callOf operation) : engine.quiet.Makes view callOf operation.quiet where
  state_eq := h.state_eq
  duration_eq := h.duration_eq
  cancels_eq _ _ _ := rfl

/-- What is known of the attempts made from one session to a later one. The calls of
which one may start although cancellation comes with another are beside it. -/
structure Session.Flew (engine : Engine σ) (beside : Engine.Call → Engine.Call → Prop)
    (begun later : Session (EngineState σ)) (flights : List Flight) : Prop where
  flown : begun.state.Flown engine flights later.state
  now_le : begun.now ≤ later.now
  during : ∀ flight ∈ flights, begun.now ≤ flight.start ∧ flight.start ≤ later.now
  uncut : ∀ instant, begun.cancelledAt = some instant → ∀ flight ∈ flights, flight.start < instant
  ordered : flights.Pairwise fun flight next => flight.start ≤ next.start ∧
    (flight.cancels = true → next.start ≤ flight.finish ∧ beside flight.call next.call)
  cancelledAt_eq : later.isCancelled = true ∨ later.cancelledAt = begun.cancelledAt

/-- The answer to an attempt has arrived, and nothing was cancelled before. -/
structure Flight.Landed (begun later : Session σ) (flight : Flight) : Prop where
  finish_le : flight.finish ≤ later.now
  uncut : ∀ instant, begun.cancelledAt = some instant → flight.finish < instant
  last : flight.cancels = true → later.isCancelled = true ∧ flight.finish = later.now

/-- What has arrived stays so while nothing is cancelled. -/
theorem Flight.Landed.of_free {begun session later : Session σ} {flight : Flight}
    (h : flight.Landed begun session) (hfree : session.isCancelled = false)
    (hle : session.now ≤ later.now) : flight.Landed begun later where
  finish_le := Nat.le_trans h.finish_le hle
  uncut := h.uncut
  last hcancels := by
    have hcancelled := (h.last hcancels).1
    simp [hfree] at hcancelled

/-- All calls on record in a session are the first ones in another, which is void if
the session is. -/
structure Session.GoesOnTo (session later : Session (EngineState σ)) : Prop where
  calls : session.state.calls <:+ later.state.calls
  void : session.overflowed = true → later.overflowed = true

namespace Session.GoesOnTo

variable {session middle later : Session (EngineState σ)}

theorem refl (session : Session (EngineState σ)) : session.GoesOnTo session :=
  ⟨List.suffix_refl _, id⟩

theorem trans (hfirst : session.GoesOnTo middle) (hsecond : middle.GoesOnTo later) :
    session.GoesOnTo later :=
  ⟨hfirst.calls.trans hsecond.calls, fun h => hsecond.void (hfirst.void h)⟩

end Session.GoesOnTo

/-- The end of what was begun in a session, beside its end where nothing cancels. All
answers have arrived and the ends are the same, or it was stopped by cancellation. -/
def Session.SameUnlessStopped {ρ : Type} (engine : Engine σ)
    (beside : Engine.Call → Engine.Call → Prop) (begun : Session (EngineState σ))
    (stopped : ρ → Prop) (ended plain : ρ × Session (EngineState σ)) : Prop :=
  ∃ flights, Flew engine beside begun ended.2 flights ∧
    ((∀ flight ∈ flights, flight.Landed begun ended.2) ∧ plain = (ended.1, ended.2.quiet) ∨
      stopped ended.1 ∧ ended.2.isCancelled = true ∧ ended.2.GoesOnTo plain.2)

namespace Session.Flew

variable {engine : Engine σ} {beside : Engine.Call → Engine.Call → Prop}
  {begun session : Session (EngineState σ)} {flights : List Flight}

/-- Going on with the clock alone adds no attempt. -/
theorem advance (h : Flew engine beside begun session flights)
    {later : Session (EngineState σ)} (hstate : later.state = session.state)
    (hle : session.now ≤ later.now)
    (hcancelled : later.isCancelled = true ∨ later.cancelledAt = begun.cancelledAt) :
    Flew engine beside begun later flights where
  flown := by
    rw [hstate]
    exact h.flown
  now_le := Nat.le_trans h.now_le hle
  during flight hflight :=
    ⟨(h.during flight hflight).1, Nat.le_trans (h.during flight hflight).2 hle⟩
  uncut := h.uncut
  ordered := h.ordered
  cancelledAt_eq := hcancelled

/-- An attempt that starts before cancellation fires. -/
theorem attempt (h : Flew engine beside begun session flights) {due : Nat}
    (hle : session.now ≤ due) (hfree : session.cancelledBy due = none) (call : Engine.Call)
    (hbeside : ∀ flight ∈ flights, flight.cancels = true →
      due ≤ flight.finish ∧ beside flight.call call)
    {later : Session (EngineState σ)} (hnow : later.now = due)
    (hcancelledAt : later.cancelledAt = session.cancelledAt)
    (hstate : later.state = (engine.attempt call due session.state).2) :
    Flew engine beside begun later
      (flights ++ [engine.flight call due session.state.engine]) := by
  have huncancelled := Session.isCancelled_of_cancelledBy_eq_none hfree hle
  have hsame : session.cancelledAt = begun.cancelledAt :=
    h.cancelledAt_eq.resolve_left (by simp [huncancelled])
  have hbegun := h.now_le
  constructor
  · rw [hstate]
    exact .attempt call due h.flown
  · omega
  · intro flight hflight
    rcases List.mem_append.mp hflight with hold | hnew
    · have hduring := h.during flight hold
      omega
    · rw [List.mem_singleton.mp hnew]
      simp only [Engine.flight]
      omega
  · intro instant hinstant flight hflight
    rcases List.mem_append.mp hflight with hold | hnew
    · exact h.uncut instant hinstant flight hold
    · rw [List.mem_singleton.mp hnew]
      exact Session.lt_of_cancelledBy_eq_none hfree (hsame.trans hinstant)
  · refine List.pairwise_append.mpr ⟨h.ordered, List.pairwise_singleton _ _, ?_⟩
    intro flight hflight next hnext
    rw [List.mem_singleton.mp hnext]
    exact ⟨Nat.le_trans (h.during flight hflight).2 hle, hbeside flight hflight⟩
  · exact .inr (hcancelledAt.trans hsame)

/-- No attempt, and time stands still. -/
theorem refl (session : Session (EngineState σ)) : Flew engine beside session session [] where
  flown := .nil
  now_le := Nat.le_refl _
  during := by simp
  uncut := by simp
  ordered := .nil
  cancelledAt_eq := .inr rfl

/-- One after the other, where nothing is cancelled in between. -/
theorem append {later : Session (EngineState σ)} {others : List Flight}
    (h : Flew engine beside begun session flights)
    (hlater : Flew engine beside session later others) (hfree : session.isCancelled = false)
    (hcalm : ∀ flight ∈ flights, flight.cancels = false) :
    Flew engine beside begun later (flights ++ others) := by
  have hsame : session.cancelledAt = begun.cancelledAt :=
    h.cancelledAt_eq.resolve_left (by simp [hfree])
  have hbegun := h.now_le
  have hsession := hlater.now_le
  constructor
  · exact h.flown.append hlater.flown
  · omega
  · intro flight hflight
    rcases List.mem_append.mp hflight with hhere | hthere
    · have hduring := h.during flight hhere
      omega
    · have hduring := hlater.during flight hthere
      omega
  · intro instant hinstant flight hflight
    rcases List.mem_append.mp hflight with hhere | hthere
    · exact h.uncut instant hinstant flight hhere
    · exact hlater.uncut instant (hsame.trans hinstant) flight hthere
  · refine List.pairwise_append.mpr ⟨h.ordered, hlater.ordered, fun flight hhere next hthere => ?_⟩
    have hbefore := (h.during flight hhere).2
    have hafter := (hlater.during next hthere).1
    refine ⟨Nat.le_trans hbefore hafter, fun hcancels => ?_⟩
    rw [hcalm flight hhere] at hcancels
    cases hcancels
  · exact hlater.cancelledAt_eq.imp_right fun hkept => hkept.trans hsame

end Session.Flew

namespace Session.SameUnlessStopped

variable {ρ : Type} {engine : Engine σ} {beside : Engine.Call → Engine.Call → Prop}
  {begun middle : Session (EngineState σ)} {stopped : ρ → Prop}
  {ended plain : ρ × Session (EngineState σ)}

/-- The ends with something made of what came of them. -/
theorem map {ρ' : Type} {stopped' : ρ' → Prop} (f : ρ → ρ')
    (h : begun.SameUnlessStopped engine beside stopped ended plain)
    (hstopped : stopped ended.1 → stopped' (f ended.1)) :
    begun.SameUnlessStopped engine beside stopped' (f ended.1, ended.2) (f plain.1, plain.2) := by
  obtain ⟨flights, hflew, hend⟩ := h
  refine ⟨flights, hflew, hend.imp (fun ⟨hlanded, hsame⟩ => ⟨hlanded, ?_⟩) fun ⟨hstop, hrest⟩ =>
    ⟨hstopped hstop, hrest⟩⟩
  rw [hsame]

/-- What is begun when all answers have arrived, if nothing goes on once cancelled. -/
theorem after {flights : List Flight} (hflew : Flew engine beside begun middle flights)
    (hlanded : ∀ flight ∈ flights, flight.Landed begun middle)
    (h : middle.SameUnlessStopped engine beside stopped ended plain)
    (hunmoved : middle.isCancelled = true → ended.2 = middle) :
    begun.SameUnlessStopped engine beside stopped ended plain := by
  obtain ⟨others, hothers, hend⟩ := h
  cases hcancelled : middle.isCancelled with
  | true =>
    have hstays := hunmoved hcancelled
    refine ⟨flights, ?_, hend.imp_left fun ⟨_, hsame⟩ => ⟨?_, hsame⟩⟩
    · rw [hstays]
      exact hflew
    · rw [hstays]
      exact hlanded
  | false =>
    have hsame : middle.cancelledAt = begun.cancelledAt :=
      hflew.cancelledAt_eq.resolve_left (by simp [hcancelled])
    have hcalm (flight : Flight) (hflight : flight ∈ flights) : flight.cancels = false := by
      cases hcancels : flight.cancels with
      | false => rfl
      | true => simp [((hlanded flight hflight).last hcancels).1] at hcancelled
    refine ⟨flights ++ others, hflew.append hothers hcancelled hcalm,
      hend.imp_left fun ⟨harrived, hplain⟩ => ⟨fun flight hflight => ?_, hplain⟩⟩
    rcases List.mem_append.mp hflight with hhere | hthere
    · exact (hlanded flight hhere).of_free hcancelled hothers.now_le
    · have hflight := harrived flight hthere
      exact { hflight with
        uncut := fun instant hinstant => hflight.uncut instant (hsame.trans hinstant) }

end Session.SameUnlessStopped

end SearchStore
