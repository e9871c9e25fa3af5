import SearchStore.Proofs.Bulk.Steps
import SearchStore.Proofs.Bulk.Sending
import SearchStore.Proofs.Engine.Losses
import SearchStore.Proofs.Retry.SideBySide
import SearchStore.Repository.Index
import SearchStore.Repository.Search

/-!
Operations of a repository over an engine to which requests get lost. Each one is
compared with the same operation over the engine itself under a policy of which no
wait can be measured, so that a second attempt that falls due makes it void. Where
it is not void, the two end alike, and in states that look alike.

This passes from operations to sequences of them, so only the calls are to be looked
at: a single call, the sending of a chunk, and calls side by side.
-/

namespace SearchStore

variable {σ τ α β : Type}

structure Engine.Commute (engine : Engine σ) (call other : Engine.Call) : Prop where
  states : ∀ state, (engine.respond other (engine.respond call state).2).2 =
    (engine.respond call (engine.respond other state).2).2
  answers : ∀ state, engine.answer other (engine.respond call state).2 = engine.answer other state

def Session.sending (session : Session (EngineState σ)) (actions : List BulkAction) :
    Session (EngineState σ × List BulkAction) :=
  { session with state := (session.state, actions) }

namespace Repository

def withEngine (repo : Repository σ) (engine : Engine τ) : Repository τ :=
  { options := repo.options, schema := repo.schema, retry := repo.retry, engine }

/-- The repository under a policy of which no wait can be measured. -/
def unwaiting (repo : Repository σ) : Repository σ := { repo with retry := repo.retry.unwaiting }

/-- What is done to different indices of an alias does not depend on the order. -/
def MembersCommute (engine : Engine σ) : Prop :=
  ∀ index other, index ≠ other →
    engine.Commute (.deleteByQuery index everything) (.deleteByQuery other everything) ∧
      engine.Commute (.deleteIndex index) (.deleteIndex other)

theorem shouldRetry_transport (repo : Repository σ) (reason : String) :
    repo.shouldRetry (.engine (.transport reason)) = true := by
  simp [shouldRetry, RepositoryError.isTransient, RepositoryError.isRetryable]

namespace Action

/-- Two sessions whose engines look alike, neither of them cancelled, and the second
one not void. -/
structure Alike (view : τ → σ) (plain : Session (EngineState σ)) (lossy : Session (EngineState τ)) :
    Prop where
  view_eq : view lossy.state.engine = plain.state.engine
  plain_uncancelled : plain.cancelledAt = none
  lossy_uncancelled : lossy.cancelledAt = none
  lossy_valid : lossy.overflowed = false

/-- From sessions that are alike the first operation makes its session void, or the
two end in the same way and their sessions are alike again. -/
structure Masks (view : τ → σ) (once : Action σ α) (lossy : Action τ α) : Prop where
  stays_void : ∀ session, session.overflowed = true → (once session).2.overflowed = true
  ends_alike : ∀ plain session, Alike view plain session →
    (once plain).2.overflowed = true ∨
      (lossy session).1 = (once plain).1 ∧ Alike view (once plain).2 (lossy session).2

namespace Masks

variable {view : τ → σ}

theorem ofExcept (result : Except RepositoryError α) :
    Masks view (Repository.ofExcept result) (Repository.ofExcept result) where
  stays_void _ h := h
  ends_alike _ _ h := .inr ⟨rfl, h⟩

theorem pure (a : α) : Masks view (Pure.pure a) (Pure.pure a) := ofExcept (.ok a)

theorem throw (error : RepositoryError) :
    Masks view (MonadExcept.throw error : Action σ α) (MonadExcept.throw error) :=
  ofExcept (.error error)

theorem bind {once : Action σ α} {lossy : Action τ α} {next : α → Action σ β}
    {lossyNext : α → Action τ β} (h : Masks view once lossy)
    (hnext : ∀ a, Masks view (next a) (lossyNext a)) :
    Masks view (once >>= next) (lossy >>= lossyNext) := by
  have hvoid (session later : Session (EngineState σ)) (result : Except RepositoryError α)
      (hrun : once session = (result, later)) (hlater : later.overflowed = true) :
      ((once >>= next) session).2.overflowed = true := by
    rw [run_bind, hrun]
    cases result with
    | ok a => exact (hnext a).stays_void later hlater
    | error error => exact hlater
  constructor
  · intro session hsession
    exact hvoid session _ _ rfl (h.stays_void session hsession)
  · intro plain session halike
    rcases h.ends_alike plain session halike with hover | ⟨hresult, hlater⟩
    · exact .inl (hvoid plain _ _ rfl hover)
    · rw [run_bind, run_bind]
      cases hplain : once plain with
      | mk result later =>
        rw [hplain] at hresult hlater
        cases hlossy : lossy session with
        | mk lossyResult lossyLater =>
          rw [hlossy] at hresult hlater
          simp only at hresult
          subst hresult
          cases lossyResult with
          | ok a => exact (hnext a).ends_alike later lossyLater hlater
          | error error => exact .inr ⟨rfl, hlater⟩

theorem outcome {once : Action σ α} {lossy : Action τ α} (h : Masks view once lossy) :
    Masks view (Repository.outcome once) (Repository.outcome lossy) where
  stays_void session hsession := h.stays_void session hsession
  ends_alike plain session halike :=
    (h.ends_alike plain session halike).imp_right fun hends => ⟨congrArg _ hends.1, hends.2⟩

theorem ite {condition : Prop} [Decidable condition] {once other : Action σ α}
    {lossy lossyOther : Action τ α} (h : Masks view once lossy)
    (hother : Masks view other lossyOther) :
    Masks view (if condition then once else other) (if condition then lossy else lossyOther) := by
  split
  · exact h
  · exact hother

end Masks

end Action

open SearchStore.Repository.Action

section Attempts

variable (repo : Repository τ) {behind : Engine σ} {view : τ → σ} {left : Engine.Call → τ → Nat}
  (hdelivers : repo.engine.DeliversTo behind view left repo.retry.maxAttempts)
include hdelivers

/-- The attempts at a call deliver it. -/
theorem delivers_attempt (call : Engine.Call) :
    Delivers repo.shouldRetry (fun _ now => repo.engine.attempt call now)
      (fun state => view state.engine) (fun state => left call state.engine)
      (fun state => ((behind.answer call state).mapError .engine,
        (behind.respond call state).2)) where
  not_cancels _ _ state := hdelivers.not_cancels call state.engine
  lost _ now state h := by
    obtain ⟨⟨reason, hanswer⟩, hview, hless⟩ := hdelivers.lost call state.engine h
    refine ⟨⟨.engine (.transport reason), ?_, shouldRetry_transport repo reason⟩, hview, hless⟩
    rw [Engine.outcome_attempt, hanswer]
    rfl
  delivered _ now state h := by
    obtain ⟨hanswer, hview⟩ := hdelivers.delivered call state.engine h
    rw [Engine.outcome_attempt, hanswer]
    exact ⟨rfl, hview⟩

def chunkEffect (engine : Engine σ) (index : String) (chunk : Nat)
    (state : σ × List BulkAction) :
    Except RepositoryError (Option String) × (σ × List BulkAction) :=
  (chunkResult chunk state.2 (engine.answer (.bulk index state.2) state.1),
    ((engine.respond (.bulk index state.2) state.1).2,
      leftToSend state.2 (engine.answer (.bulk index state.2) state.1)))

/-- The attempts at a chunk deliver it: a lost one leaves all its actions to send. -/
theorem delivers_attemptChunk (chunk : Nat) :
    Delivers repo.shouldRetry (fun _ now => repo.attemptChunk chunk now)
      (fun state => (view state.1.engine, state.2))
      (fun state => left (.bulk repo.index state.2) state.1.engine)
      (chunkEffect behind repo.index chunk) where
  not_cancels _ now state := by
    have hcalm := hdelivers.not_cancels (.bulk repo.index state.2) state.1.engine
    simp only [attemptChunk]
    split <;> exact hcalm
  lost _ now state h := by
    obtain ⟨⟨reason, hanswer⟩, hview, hless⟩ := hdelivers.lost _ state.1.engine h
    have hrequest : (repo.chunkRequest state).2 = .error (.transport reason) := hanswer
    rw [attemptChunk_outcome, attemptChunk_state, hrequest]
    refine ⟨⟨_, rfl, shouldRetry_transport repo reason⟩, ?_, hless⟩
    exact Prod.ext hview rfl
  delivered _ now state h := by
    obtain ⟨hanswer, hview⟩ := hdelivers.delivered _ state.1.engine h
    have hrequest : (repo.chunkRequest state).2 =
        behind.answer (.bulk repo.index state.2) (view state.1.engine) := hanswer
    rw [attemptChunk_outcome, attemptChunk_state, hrequest]
    exact ⟨rfl, Prod.ext hview rfl⟩

def bareAttempt (engine : Engine σ) (call : Engine.Call) :
    Operation (EngineState σ) RepositoryError Unit := fun _ now state =>
  ({ (engine.attempt call now state).1 with
      outcome := (engine.attempt call now state).1.outcome.map fun _ => () },
    (engine.attempt call now state).2)

def bareEffect (engine : Engine σ) (call : Engine.Call) (state : σ) :
    Except RepositoryError Unit × σ :=
  (((engine.answer call state).mapError .engine).map fun _ => (), (engine.respond call state).2)

/-- The attempts at calls side by side deliver them. -/
theorem deliversAll_bareAttempt {kind : String → Engine.Call}
    (hkind : ∀ index, (kind index).isSideBySide = true) :
    DeliversAll repo.shouldRetry (fun index => bareAttempt repo.engine (kind index))
      (fun state => view state.engine) (fun index state => left (kind index) state.engine)
      (fun index => bareEffect behind (kind index)) where
  delivers index := by
    have hcall := delivers_attempt repo hdelivers (kind index)
    exact {
      not_cancels := hcall.not_cancels
      lost := by
        intro n now state h
        obtain ⟨⟨error, houtcome, hretry⟩, hview, hless⟩ := hcall.lost n now state h
        refine ⟨⟨error, ?_, hretry⟩, hview, hless⟩
        simp only [bareAttempt, houtcome]
        rfl
      delivered := by
        intro n now state h
        obtain ⟨houtcome, hview⟩ := hcall.delivered n now state h
        refine ⟨?_, hview⟩
        simp only [bareAttempt, houtcome, bareEffect] }
  left_le index _ _ state other := hdelivers.left_le (kind index) state.engine _ (hkind index)

end Attempts

theorem callAll_eq (repo : Repository σ) (kind : String → Engine.Call) (indices : List String)
    (session : Session (EngineState σ)) :
    repo.callAll (indices.map kind) session =
      (.ok (), (repo.retry.executeAll repo.shouldRetry
        (indices.map fun index => bareAttempt repo.engine (kind index)) session).2) := by
  rw [callAll, List.map_map]
  rfl

/-- Effects of calls that commute may come about in any order. -/
theorem anyOrder_bareEffect {engine : Engine σ} {kind : String → Engine.Call}
    (hcommute : ∀ index other, index ≠ other → engine.Commute (kind index) (kind other))
    (policy : RetryPolicy) (retry : RepositoryError → Bool) :
    policy.AnyOrder retry fun index => bareEffect engine (kind index) := by
  intro index other settled
  by_cases hsame : index = other
  · rw [hsame]
  · have hhere := hcommute index other hsame
    have hthere := hcommute other index (Ne.symm hsame)
    simp only [RetryPolicy.settle, bareEffect, hhere.answers, hthere.answers, hhere.states,
      Bool.or_right_comm]

section Calls

variable {repo : Repository σ} {engine : Engine τ} {view : τ → σ} {left : Engine.Call → τ → Nat}
  (hdelivers : engine.DeliversTo repo.engine view left repo.retry.maxAttempts)
  (hcalm : ∀ call state, (repo.engine.respond call state).1.cancels = false)
  (hmeasurable : repo.retry.IsMeasurable)
include hdelivers hcalm hmeasurable

theorem masks_call (call : Engine.Call) :
    Masks view (repo.unwaiting.call call) ((repo.withEngine engine).call call) where
  stays_void session h :=
    RetryPolicy.overflowed_execute_of_overflowed repo.unwaiting.retry _ _ session h
  ends_alike plain session halike := by
    have hplain := delivers_attempt repo.unwaiting
      (repo.engine.deliversTo_self hcalm repo.retry.maxAttempts_pos) call
    have hlossy := delivers_attempt (repo.withEngine engine) hdelivers call
    refine (RetryPolicy.execute_masks hplain hlossy hmeasurable plain session
      halike.plain_uncancelled halike.lossy_uncancelled (hdelivers.left_lt call _)
      halike.view_eq).imp_right ?_
    intro ⟨hresult, hview⟩
    refine ⟨congrArg (Except.mapError RetryFailure.toError) hresult, hview, ?_, ?_, ?_⟩
    · exact RetryPolicy.cancelledAt_execute hplain.not_cancels _ _ plain halike.plain_uncancelled
    · exact RetryPolicy.cancelledAt_execute hlossy.not_cancels _ _ session halike.lossy_uncancelled
    · exact (RetryPolicy.overflowed_execute hmeasurable _ _ session).trans halike.lossy_valid

theorem masks_sendChunk (chunk : Nat) (actions : List BulkAction) :
    Masks view (repo.unwaiting.sendChunk chunk actions)
      ((repo.withEngine engine).sendChunk chunk actions) where
  stays_void session h :=
    RetryPolicy.overflowed_execute_of_overflowed repo.unwaiting.retry _ _
      (session.sending actions) h
  ends_alike plain session halike := by
    have hplain := delivers_attemptChunk repo.unwaiting
      (repo.engine.deliversTo_self hcalm repo.retry.maxAttempts_pos) chunk
    have hlossy := delivers_attemptChunk (repo.withEngine engine) hdelivers chunk
    refine (RetryPolicy.execute_masks hplain hlossy hmeasurable (plain.sending actions)
      (session.sending actions) halike.plain_uncancelled halike.lossy_uncancelled
      (hdelivers.left_lt _ _) (Prod.ext halike.view_eq rfl)).imp_right ?_
    intro ⟨hresult, hview⟩
    refine ⟨congrArg (Except.mapError RetryFailure.toError) hresult, congrArg Prod.fst hview,
      ?_, ?_, ?_⟩
    · exact RetryPolicy.cancelledAt_execute hplain.not_cancels _ _ (plain.sending actions)
        halike.plain_uncancelled
    · exact RetryPolicy.cancelledAt_execute hlossy.not_cancels _ _ (session.sending actions)
        halike.lossy_uncancelled
    · exact (RetryPolicy.overflowed_execute hmeasurable _ _ (session.sending actions)).trans
        halike.lossy_valid

theorem masks_callAll (kind : String → Engine.Call)
    (hkind : ∀ index, (kind index).isSideBySide = true)
    (hcommute : ∀ index other, index ≠ other → repo.engine.Commute (kind index) (kind other))
    (indices : List String) :
    Masks view (repo.unwaiting.callAll (indices.map kind))
      ((repo.withEngine engine).callAll (indices.map kind)) where
  stays_void session h := by
    rw [callAll_eq]
    exact RetryPolicy.overflowed_executeAll_of_overflowed _ _ _ session h
  ends_alike plain session halike := by
    have hplain := deliversAll_bareAttempt repo.unwaiting
      (repo.engine.deliversTo_self hcalm repo.retry.maxAttempts_pos) hkind
    have hlossy := deliversAll_bareAttempt (repo.withEngine engine) hdelivers hkind
    rw [callAll_eq, callAll_eq]
    refine (RetryPolicy.executeAll_masks hplain hlossy hmeasurable
      (anyOrder_bareEffect hcommute repo.retry repo.shouldRetry) indices plain session
      halike.plain_uncancelled halike.lossy_uncancelled halike.lossy_valid
      (fun index => hdelivers.left_lt (kind index) _) halike.view_eq).imp_right ?_
    intro ⟨hplainUncancelled, hlossyUncancelled, hview⟩
    exact ⟨rfl, hview, hplainUncancelled, hlossyUncancelled,
      (RetryPolicy.overflowed_executeAll hmeasurable _ _ session).trans halike.lossy_valid⟩

end Calls

end Repository

end SearchStore
