import SearchStore.Proofs.Repository.Requests
import SearchStore.Proofs.Retry.Cancellation

/-!
Cancellation of what is asked of a repository. Each operation is compared with the
same one where nothing cancels. Either nothing is disturbed and both end alike, or the
operation is refused: it has made the first calls of those that would be made
otherwise, and it ends with an error.

This passes from operations to sequences of them, with care where a failure does not
end the operation: calls side by side are followed by another call, which is refused,
and a chunk that is cancelled ends the load.
-/

namespace SearchStore

variable {σ α β δ : Type}

namespace Repository

open SearchStore.Repository.Action

def quiet (repo : Repository σ) : Repository σ := { repo with engine := repo.engine.quiet }

/-- Two calls that are made side by side: both empty or both delete an index, at
different places among the indices that the engine has named. -/
def Beside (repo : Repository σ) (call other : Engine.Call) : Prop :=
  ∃ (state : σ) (indices : List String),
    repo.engine.answer (.getAlias repo.index) state = .ok indices ∧
    ∃ (place otherPlace : Nat) (index otherIndex : String), place ≠ otherPlace ∧
      indices[place]? = some index ∧ indices[otherPlace]? = some otherIndex ∧
      (call = .deleteByQuery index everything ∧ other = .deleteByQuery otherIndex everything ∨
        call = .deleteIndex index ∧ other = .deleteIndex otherIndex)

namespace Action

def Refused (result : Except RepositoryError α) : Prop := ∃ error, result = .error error

def Gives (action : Action σ α) (a : α) : Prop := ∃ session, (action session).1 = .ok a

/-- Beside another operation that nothing cancels, one ends in the same way unless
cancellation stops it, and does nothing once cancelled. -/
structure Heeds (repo : Repository σ) (action plain : Action σ α)
    (stopped : Except RepositoryError α → Prop) : Prop where
  goesOnTo : ∀ session : Session (EngineState σ), session.GoesOnTo (plain session).2
  unmoved : ∀ session, session.isCancelled = true → (action session).2 = session
  same_unless_stopped : ∀ session : Session (EngineState σ),
    session.SameUnlessStopped repo.engine repo.Beside stopped (action session)
      (plain session.quiet)

namespace Heeds

variable {repo : Repository σ} {stopped : Except RepositoryError α → Prop}
  {action plain : Action σ α}

theorem ofExcept (result : Except RepositoryError α) :
    Heeds repo (Repository.ofExcept result) (Repository.ofExcept result) stopped where
  goesOnTo session := .refl session
  unmoved _ _ := rfl
  same_unless_stopped session := ⟨[], .refl session, .inl ⟨by simp, rfl⟩⟩

theorem pure (a : α) : Heeds repo (Pure.pure a) (Pure.pure a) stopped := ofExcept (.ok a)

theorem throw (error : RepositoryError) :
    Heeds repo (MonadExcept.throw error) (MonadExcept.throw error) stopped :=
  ofExcept (.error error)

theorem outcome (h : Heeds repo action plain stopped) :
    Heeds repo (Repository.outcome action) (Repository.outcome plain)
      (fun result => ∃ inner, result = .ok inner ∧ stopped inner) where
  goesOnTo := h.goesOnTo
  unmoved := h.unmoved
  same_unless_stopped session :=
    (h.same_unless_stopped session).map Except.ok fun hstopped => ⟨_, rfl, hstopped⟩

theorem ite {condition : Prop} [Decidable condition] {other plainOther : Action σ α}
    (h : Heeds repo action plain stopped) (hother : Heeds repo other plainOther stopped) :
    Heeds repo (if condition then action else other)
      (if condition then plain else plainOther) stopped := by
  split
  · exact h
  · exact hother

/-- One operation after another. If the first one is stopped and does not say so, the
second one has to. -/
theorem bind {stoppedNext : Except RepositoryError β → Prop} {next plainNext : α → Action σ β}
    (h : Heeds repo action plain stopped)
    (hnext : ∀ a, Gives action a ∨ Gives plain a → Heeds repo (next a) (plainNext a) stoppedNext)
    (herror : ∀ error, stopped (.error error) → stoppedNext (.error error))
    (hok : ∀ a session, stopped (.ok a) → session.isCancelled = true →
      stoppedNext (next a session).1) :
    Heeds repo (action >>= next) (plain >>= plainNext) stoppedNext := by
  have hon (session : Session (EngineState σ)) :
      (plain session).2.GoesOnTo ((plain >>= plainNext) session).2 := by
    rw [run_bind]
    cases hrun : plain session with
    | mk result later =>
      cases result with
      | ok a => exact (hnext a (.inr ⟨session, by rw [hrun]⟩)).goesOnTo later
      | error error => exact .refl later
  constructor
  · exact fun session => (h.goesOnTo session).trans (hon session)
  · intro session hcancelled
    have hunmoved := h.unmoved session hcancelled
    rw [run_bind]
    cases hrun : action session with
    | mk result later =>
      obtain rfl : later = session := by rw [hrun] at hunmoved; exact hunmoved
      cases result with
      | ok a => exact (hnext a (.inl ⟨later, by rw [hrun]⟩)).unmoved later hcancelled
      | error error => rfl
  · intro session
    obtain ⟨flights, hflew, hend⟩ := h.same_unless_stopped session
    have hplain := hon session.quiet
    rw [run_bind]
    cases hrun : action session with
    | mk result later =>
      rw [hrun] at hflew hend
      have hgives (a : α) (ha : result = .ok a) : Gives action a := ⟨session, by rw [hrun, ha]⟩
      rcases hend with ⟨hlanded, hsame⟩ | ⟨hstopped, hcancelled, hgoes⟩
      · rw [run_bind, hsame]
        cases result with
        | ok a =>
          have hheeds := hnext a (.inl (hgives a rfl))
          exact (hheeds.same_unless_stopped later).after hflew hlanded (hheeds.unmoved later)
        | error error => exact ⟨flights, hflew, .inl ⟨hlanded, rfl⟩⟩
      · cases result with
        | ok a =>
          have hstays := (hnext a (.inl (hgives a rfl))).unmoved later hcancelled
          refine ⟨flights, ?_, .inr ⟨hok a later hstopped hcancelled, ?_, ?_⟩⟩
          · rw [hstays]
            exact hflew
          · rw [hstays]
            exact hcancelled
          · rw [hstays]
            exact hgoes.trans hplain
        | error error =>
          exact ⟨flights, hflew, .inr ⟨herror error hstopped, hcancelled, hgoes.trans hplain⟩⟩

/-- One operation after another, where cancellation makes the first one fail. -/
theorem andThen {next plainNext : α → Action σ β} (h : Heeds repo action plain Refused)
    (hnext : ∀ a, Heeds repo (next a) (plainNext a) Refused) :
    Heeds repo (action >>= next) (plain >>= plainNext) Refused := by
  refine h.bind (fun a _ => hnext a) (fun error _ => ⟨error, rfl⟩) ?_
  rintro a session ⟨error, herror⟩
  cases herror

end Heeds

end Action

section Calls

variable (repo : Repository σ)

/-- Attempts at a call are what the engine makes of it. -/
theorem makes_attempt (call : Engine.Call) :
    repo.engine.Makes id (fun _ => call) fun _ now => repo.engine.attempt call now :=
  ⟨fun _ _ _ => rfl, fun _ _ _ => rfl, fun _ _ _ => rfl⟩

theorem makes_attemptChunk (chunk : Nat) :
    repo.engine.Makes Prod.fst (fun state => .bulk repo.index state.2)
      fun _ now => repo.attemptChunk chunk now := by
  constructor
  all_goals
    intro n now state
    simp only [attemptChunk]
    split <;> rfl

/-- Where nothing cancels, the attempts at a chunk are the same otherwise. -/
theorem quiet_attemptChunk (chunk : Nat) :
    Operation.quiet (fun _ now => repo.attemptChunk chunk now) =
      fun _ now => repo.quiet.attemptChunk chunk now := by
  funext n now state
  have hattempt : repo.quiet.engine.attempt (.bulk repo.quiet.index state.2) now state.1 =
      ((repo.engine.attempt (.bulk repo.index state.2) now state.1).1.quiet,
        (repo.engine.attempt (.bulk repo.index state.2) now state.1).2) := rfl
  simp only [Operation.quiet, attemptChunk, hattempt]
  generalize repo.engine.attempt (.bulk repo.index state.2) now state.1 = answered
  obtain ⟨⟨outcome, duration, cancels⟩, next⟩ := answered
  cases outcome <;> rfl

theorem makes_bareAttempt (call : Engine.Call) :
    repo.engine.Makes id (fun _ => call) (bareAttempt repo.engine call) :=
  ⟨fun _ _ _ => rfl, fun _ _ _ => rfl, fun _ _ _ => rfl⟩

/-- Once cancelled, a call is refused before it is made. -/
theorem run_call_of_isCancelled (call : Engine.Call) (session : Session (EngineState σ))
    (h : session.isCancelled = true) : repo.call call session = (.error .cancelled, session) := by
  rw [Repository.call, RetryPolicy.execute_of_isCancelled _ _ _ _ h]
  rfl

/-- What a call gives is an answer of the engine. -/
theorem exists_answer_of_gives {call : Engine.Call} {answer : call.Answer}
    (h : Gives (repo.call call) answer) :
    ∃ state, repo.engine.answer call state = .ok answer := by
  obtain ⟨session, hresult⟩ := h
  obtain ⟨answers, hrun⟩ := repo.exists_callRun call session
  rw [hresult] at hrun
  obtain ⟨state, hanswer, -⟩ := hrun.exists_answer_of_ok
  exact ⟨state, hanswer⟩

theorem heeds_call (call : Engine.Call) :
    Heeds repo (repo.call call) (repo.quiet.call call) Refused where
  goesOnTo session :=
    RetryPolicy.goesOnTo_execute repo.retry repo.shouldRetry (repo.quiet.makes_attempt call) session
  unmoved session h := by rw [run_call_of_isCancelled _ _ _ h]
  same_unless_stopped session :=
    (RetryPolicy.execute_sameUnlessStopped repo.retry repo.shouldRetry repo.Beside
      (repo.makes_attempt call) session).map (Except.mapError RetryFailure.toError)
        fun hstopped => by
          rw [hstopped]
          exact ⟨_, rfl⟩

theorem heeds_sendChunk (chunk : Nat) (actions : List BulkAction) :
    Heeds repo (repo.sendChunk chunk actions) (repo.quiet.sendChunk chunk actions)
      (· = .error .cancelled) where
  goesOnTo session :=
    RetryPolicy.goesOnTo_execute repo.retry repo.shouldRetry (repo.quiet.makes_attemptChunk chunk)
      (session.sending actions)
  unmoved session h := by
    have hsending : (session.sending actions).isCancelled = true := h
    rw [sendChunk, ← Session.sending, RetryPolicy.execute_of_isCancelled _ _ _ _ hsending]
    rfl
  same_unless_stopped session := by
    have hsent := RetryPolicy.execute_sameUnlessStopped repo.retry repo.shouldRetry repo.Beside
      (repo.makes_attemptChunk chunk) (session.sending actions)
    rw [quiet_attemptChunk] at hsent
    exact hsent.map (Except.mapError RetryFailure.toError) fun hstopped => by
      rw [hstopped]
      rfl

/-- Calls side by side do not say that they were stopped. -/
theorem heeds_callAll (kind : String → Engine.Call) (indices : List String)
    (hbeside : Task.AllBeside (fun index (_ : EngineState σ) => kind index) repo.Beside indices) :
    Heeds repo (repo.callAll (indices.map kind)) (repo.quiet.callAll (indices.map kind))
      (fun _ => True) where
  goesOnTo session := by
    rw [callAll_eq]
    exact RetryPolicy.goesOnTo_executeAll repo.retry repo.shouldRetry
      (fun index => repo.quiet.makes_bareAttempt (kind index)) indices session
  unmoved session h := by
    rw [callAll_eq]
    exact RetryPolicy.executeAll_of_isCancelled _ _ _ indices session h
  same_unless_stopped session := by
    rw [callAll_eq, callAll_eq]
    have hmade := RetryPolicy.executeAll_sameUnlessStopped repo.retry repo.shouldRetry
      (fun index => repo.makes_bareAttempt (kind index)) indices hbeside session
    exact hmade.map (fun _ => (.ok () : Except RepositoryError Unit)) fun _ => trivial

end Calls

theorem refused_loadResult (failures : List String) {restored : Except RepositoryError Unit}
    (h : Refused restored) : Refused (loadResult failures restored) := by
  obtain ⟨error, rfl⟩ := h
  simp only [loadResult]
  split <;> exact ⟨_, rfl⟩

section Operations

variable (repo : Repository σ)

/-- No chunk is sent once cancelled, and a chunk that is cancelled is the last one. -/
theorem heeds_sendChunks (chunk : Nat) (pieces : List (List BulkAction)) :
    Heeds repo (repo.sendChunks chunk pieces) (repo.quiet.sendChunks chunk pieces) Refused := by
  induction pieces generalizing chunk with
  | nil =>
    rw [sendChunks, sendChunks]
    exact .pure []
  | cons actions rest ih =>
    have hafter (result : Except RepositoryError (Option String)) :
        Heeds repo (repo.afterChunk chunk rest result)
          (repo.quiet.afterChunk chunk rest result) Refused := by
      unfold afterChunk
      split
      · exact .ofExcept _
      · exact (ih (chunk + 1)).andThen fun failures => .pure _
    have hpiece : Heeds repo
        (outcome (repo.sendChunk chunk actions) >>= repo.afterChunk chunk rest)
        (outcome (repo.quiet.sendChunk chunk actions) >>= repo.quiet.afterChunk chunk rest)
        Refused := by
      refine (repo.heeds_sendChunk chunk actions).outcome.bind (fun result _ => hafter result)
        (fun error _ => ⟨error, rfl⟩) ?_
      rintro _ session ⟨result, ⟨⟩, rfl⟩ -
      exact ⟨.cancelled, rfl⟩
    constructor
    · intro session
      cases hcancelled : session.isCancelled with
      | true =>
        rw [run_sendChunks_cons, if_pos hcancelled]
        exact .refl session
      | false =>
        rw [run_sendChunks_cons_of_not_cancelled _ _ _ _ _ hcancelled]
        exact hpiece.goesOnTo session
    · intro session hcancelled
      rw [run_sendChunks_cons, if_pos hcancelled]
    · intro session
      have hquiet : session.quiet.isCancelled = false := rfl
      rw [run_sendChunks_cons_of_not_cancelled repo.quiet _ _ _ _ hquiet]
      cases hcancelled : session.isCancelled with
      | true =>
        rw [run_sendChunks_cons, if_pos hcancelled]
        have hgoes := hpiece.goesOnTo session.quiet
        exact ⟨[], .refl session, .inr ⟨⟨_, rfl⟩, hcancelled, hgoes.calls, hgoes.void⟩⟩
      | false =>
        rw [run_sendChunks_cons_of_not_cancelled _ _ _ _ _ hcancelled]
        exact hpiece.same_unless_stopped session

theorem heeds_endLoad (failures : List String) :
    Heeds repo (repo.endLoad failures) (repo.quiet.endLoad failures) Refused := by
  rw [endLoad_eq, endLoad_eq]
  refine (repo.heeds_call _).outcome.bind (fun restored _ => .ofExcept _)
    (fun error _ => ⟨error, rfl⟩) ?_
  rintro _ session ⟨restored, ⟨⟩, hrefused⟩ -
  exact refused_loadResult failures hrefused

theorem heeds_bulkWrite (actions : List BulkAction) :
    Heeds repo (repo.bulkWrite actions) (repo.quiet.bulkWrite actions) Refused := by
  by_cases hempty : actions = []
  · subst hempty
    exact .pure ()
  · rw [bulkWrite_eq _ hempty, bulkWrite_eq _ hempty]
    exact (repo.heeds_call _).andThen fun _ =>
      (repo.heeds_sendChunks 0 _).andThen repo.heeds_endLoad

theorem heeds_bulkDelete (ids : List String) :
    Heeds repo (repo.bulkDelete ids) (repo.quiet.bulkDelete ids) Refused := by
  unfold bulkDelete
  refine .ite (.pure ()) ((repo.heeds_call _).andThen fun response => ?_)
  refine .ite ((Heeds.throw _).andThen fun _ => ?_) ?_
  all_goals exact .ite (.throw _) (.pure ())

theorem heeds_get [Document δ] (id : String) :
    Heeds repo (repo.get id : Action σ (Option δ)) (repo.quiet.get id) Refused := by
  refine (repo.heeds_call _).andThen fun answer => ?_
  cases answer with
  | none => exact .pure none
  | some hit => exact .ite (.pure none) ((Heeds.ofExcept _).andThen fun document => .pure _)

theorem heeds_createUnlessExists (name : String) (body : Json) :
    Heeds repo (repo.createUnlessExists name body)
      (repo.quiet.createUnlessExists name body) Refused :=
  (repo.heeds_call _).andThen fun _ =>
    .ite (.pure false) ((repo.heeds_call _).andThen fun _ => .pure true)

theorem heeds_prepareRollover :
    Heeds repo repo.prepareRollover repo.quiet.prepareRollover Refused := by
  have htemplate := repo.heeds_call (.putIndexTemplate repo.options.pattern repo.templateBody)
  exact (repo.heeds_call _).andThen fun _ =>
    .ite ((repo.heeds_call _).andThen fun _ => htemplate) htemplate

theorem heeds_createIndex : Heeds repo repo.createIndex repo.quiet.createIndex Refused := by
  have hcreate := repo.heeds_createUnlessExists
  refine .ite ((repo.heeds_call _).andThen fun _ => ?_) (hcreate _ _)
  exact .ite (repo.heeds_prepareRollover.andThen fun _ => hcreate _ _) (hcreate _ _)

/-- Calls side by side with the indices that the engine names are beside each other. -/
theorem allBeside_of_gives {indices : List String}
    (h : Gives (repo.call (.getAlias repo.index)) indices) :
    Task.AllBeside (fun index (_ : EngineState σ) => .deleteByQuery index everything) repo.Beside
        indices ∧
      Task.AllBeside (fun index (_ : EngineState σ) => .deleteIndex index) repo.Beside indices := by
  obtain ⟨state, hanswer⟩ := repo.exists_answer_of_gives h
  have hplaces (place otherPlace : Nat) (hne : place ≠ otherPlace) (hplace : place < indices.length)
      (hother : otherPlace < indices.length) :
      repo.Beside (.deleteByQuery indices[place] everything)
          (.deleteByQuery indices[otherPlace] everything) ∧
        repo.Beside (.deleteIndex indices[place]) (.deleteIndex indices[otherPlace]) := by
    have hindex := List.getElem?_eq_getElem hplace
    have hotherIndex := List.getElem?_eq_getElem hother
    exact ⟨⟨state, indices, hanswer, place, otherPlace, _, _, hne, hindex, hotherIndex,
        .inl ⟨rfl, rfl⟩⟩,
      ⟨state, indices, hanswer, place, otherPlace, _, _, hne, hindex, hotherIndex,
        .inr ⟨rfl, rfl⟩⟩⟩
  constructor
  all_goals
    refine List.pairwise_iff_getElem.mpr fun place other hplace hother hlt _ _ => ?_
    have hthere := hplaces place other (Nat.ne_of_lt hlt) hplace hother
    have hback := hplaces other place (Nat.ne_of_gt hlt) hother hplace
  · exact ⟨hthere.1, hback.1⟩
  · exact ⟨hthere.2, hback.2⟩

/-- The calls side by side hide their failures, but another call follows. -/
theorem heeds_deleteIndex : Heeds repo repo.deleteIndex repo.quiet.deleteIndex Refused := by
  have hrefused (call : Engine.Call) (session : Session (EngineState σ))
      (h : session.isCancelled = true) : Refused (repo.call call session).1 := by
    rw [run_call_of_isCancelled _ _ _ h]
    exact ⟨_, rfl⟩
  have hmembers (indices : List String) (hgives : Gives (repo.call (.getAlias repo.index)) indices ∨
      Gives (repo.quiet.call (.getAlias repo.index)) indices) :
      Heeds repo
        (repo.callAll (indices.map (.deleteByQuery · everything)) >>= fun _ =>
          repo.callAll (indices.map .deleteIndex) >>= fun _ => repo.call (.deleteAlias repo.index))
        (repo.quiet.callAll (indices.map (.deleteByQuery · everything)) >>= fun _ =>
          repo.quiet.callAll (indices.map .deleteIndex) >>= fun _ =>
            repo.quiet.call (.deleteAlias repo.index)) Refused := by
    obtain ⟨hemptied, hdeleted⟩ :=
      hgives.elim repo.allBeside_of_gives repo.quiet.allBeside_of_gives
    have hdelete := repo.heeds_callAll .deleteIndex indices hdeleted
    have hrest := hdelete.bind (fun _ _ => repo.heeds_call (.deleteAlias repo.index))
      (fun error _ => ⟨error, rfl⟩) fun _ session _ hcancelled => hrefused _ session hcancelled
    refine (repo.heeds_callAll (.deleteByQuery · everything) indices hemptied).bind
      (fun _ _ => hrest) (fun error _ => ⟨error, rfl⟩) fun _ session _ hcancelled => ?_
    have hrun : repo.callAll (indices.map .deleteIndex) session = (.ok (), session) :=
      Prod.ext rfl (hdelete.unmoved session hcancelled)
    rw [run_bind_ok hrun]
    exact hrefused _ session hcancelled
  have hrolled := (repo.heeds_call (.getAlias repo.index)).bind hmembers
    (fun error _ => ⟨error, rfl⟩) (fun indices session hstopped => by
      obtain ⟨error, herror⟩ := hstopped
      cases herror)
  have hsingle := (repo.heeds_call (.deleteByQuery repo.index everything)).andThen fun _ =>
    repo.heeds_call (.deleteIndex repo.index)
  exact .ite ((repo.heeds_call _).andThen fun _ => .ite hrolled hsingle)
    ((Heeds.pure false).andThen fun _ => .ite hrolled hsingle)

end Operations

inductive Command (δ : Type) : Type 1 where
  | request (asked : Request δ)
  | any (filter : List FilterField)
  | list (α : Type) (decode : Json → Except String α) (filter : List FilterField)
  | indexExists (name : String)
  | indexSize
  | indexStats
  | health
  | deleteDuplicates

namespace Command

@[reducible]
def Result : Command δ → Type
  | .request asked => asked.Result
  | .any _ | .indexExists _ => Bool
  | .list α _ _ => List α
  | .indexSize => Option Nat
  | .indexStats => Option IndexStats
  | .health => ClusterHealth
  | .deleteDuplicates => Unit

def run [Document δ] (repo : Repository σ) : (command : Command δ) → Action σ command.Result
  | .request asked => asked.run repo
  | .any filter => repo.any filter
  | .list _ decode filter => repo.list decode filter
  | .indexExists name => repo.indexExists name
  | .indexSize => repo.indexSize
  | .indexStats => repo.indexStats
  | .health => repo.health
  | .deleteDuplicates => repo.deleteDuplicates

end Command

section Commands

variable (repo : Repository σ)

theorem heeds_request [Document δ] (request : Request δ) :
    Heeds repo (request.run repo) (request.run repo.quiet) Refused := by
  have hcall := repo.heeds_call
  cases request with
  | documentExists id => exact hcall _
  | get id => exact repo.heeds_get id
  | count filter => exact hcall _
  | search filter paging => exact (hcall _).andThen fun _ => .ofExcept _
  | aggregations filter => exact (hcall _).andThen fun _ => .pure _
  | insert document => exact (Heeds.ofExcept _).andThen fun _ => hcall _
  | update id document index => exact (Heeds.ofExcept _).andThen fun _ => hcall _
  | updatePartial id part => exact hcall _
  | delete id => exact (hcall _).andThen fun found => .ite (hcall _) (.pure ())
  | bulkInsert documents => exact (Heeds.ofExcept _).andThen repo.heeds_bulkWrite
  | bulkUpdate documents => exact (Heeds.ofExcept _).andThen repo.heeds_bulkWrite
  | bulkDelete ids => exact repo.heeds_bulkDelete ids
  | setRefreshInterval index interval => exact hcall _
  | createIndex => exact repo.heeds_createIndex
  | deleteIndex => exact repo.heeds_deleteIndex

theorem heeds_command [Document δ] (command : Command δ) :
    Heeds repo (command.run repo) (command.run repo.quiet) Refused := by
  have hcall := repo.heeds_call
  have hprimaries : Heeds repo repo.primaries repo.quiet.primaries Refused :=
    (hcall _).andThen fun _ => .pure _
  cases command with
  | request asked => exact repo.heeds_request asked
  | any filter => exact (hcall _).andThen fun _ => .pure _
  | list α decode filter =>
    exact (hcall _).andThen fun _ => (Heeds.ofExcept _).andThen fun _ => .pure _
  | indexExists name => exact hcall _
  | indexSize => exact hprimaries.andThen fun _ => .pure _
  | indexStats => exact hprimaries.andThen fun _ => .pure _
  | health =>
    refine (hcall _).andThen fun report => ?_
    cases ClusterHealth.ofJson? report with
    | none => exact .throw _
    | some health => exact .pure health
  | deleteDuplicates => exact .throw _

end Commands

end Repository

/-- Whether cancellation fires while an attempt is in flight: at the instant set for
it, or as the answer to another attempt arrives. -/
def Flight.IsOvertaken (session : Session σ) (flights : List Flight) (flight : Flight) : Prop :=
  (∃ instant, session.cancelledAt = some instant ∧ instant ≤ flight.finish) ∨
    ∃ other ∈ flights, other.cancels = true ∧ flight.start ≤ other.finish ∧
      other.finish < flight.finish

namespace Repository

open SearchStore.Repository.Action

/-- How cancellation ends an operation, by the attempts made and beside the end where
nothing cancels. A cancellation that comes with an answer fires between that answer
and what follows it. -/
structure CancelledForGood (repo : Repository σ) (session : Session (EngineState σ))
    (flights : List Flight) (ended plain : Except RepositoryError α × Session (EngineState σ)) :
    Prop where
  /-- These attempts are made and no others, in the order in which they start. -/
  flown : session.state.Flown repo.engine flights ended.2.state
  /-- None starts when the instant set for cancellation has come. -/
  start_lt : ∀ instant, session.cancelledAt = some instant →
    ∀ flight ∈ flights, session.now ≤ flight.start ∧ flight.start < instant
  /-- After an attempt whose answer comes with cancellation only attempts side by side
  with it may start, before that answer arrives. -/
  ordered : flights.Pairwise fun flight next => flight.start ≤ next.start ∧
    (flight.cancels = true → next.start ≤ flight.finish ∧ repo.Beside flight.call next.call)
  /-- An operation with an attempt in flight when cancellation fires is refused. -/
  refused_of_overtaken : (∃ flight ∈ flights, flight.IsOvertaken session flights) →
    Refused ended.1
  /-- Without cancellation the same calls would be made, and maybe more. -/
  first_calls : ended.2.state.calls <:+ plain.2.state.calls
  /-- An operation that would make more calls without cancellation is refused. -/
  refused_of_more_calls : ended.2.state.calls ≠ plain.2.state.calls → Refused ended.1
  /-- An operation that is not refused ends as it would without cancellation. -/
  same_of_not_refused : ¬ Refused ended.1 → plain = (ended.1, ended.2.quiet)

/-- Cancellation is final. -/
theorem run_cancelledForGood [Document δ] (repo : Repository σ) (command : Command δ)
    (session : Session (EngineState σ)) :
    ∃ flights, repo.CancelledForGood session flights (command.run repo session)
      (command.run repo.quiet session.quiet) := by
  have hheeds := repo.heeds_command command
  obtain ⟨flights, hflew, hend⟩ := hheeds.same_unless_stopped session
  refine ⟨flights, ⟨hflew.flown, ?_, hflew.ordered, ?_, ?_, ?_, ?_⟩⟩
  · intro instant hinstant flight hflight
    exact ⟨(hflew.during flight hflight).1, hflew.uncut instant hinstant flight hflight⟩
  · rintro ⟨flight, hflight, hovertaken⟩
    refine (hend.resolve_left ?_).1
    rintro ⟨hlanded, -⟩
    rcases hovertaken with ⟨instant, hinstant, hle⟩ | ⟨other, hother, hcancels, -, hlt⟩
    · have huncut := (hlanded flight hflight).uncut instant hinstant
      omega
    · -- What comes with cancellation is the last to arrive.
      have hfinish := (hlanded flight hflight).finish_le
      have hlast := ((hlanded other hother).last hcancels).2
      omega
  · rcases hend with ⟨-, hsame⟩ | ⟨-, -, hgoes⟩
    · rw [hsame]
      exact List.suffix_refl _
    · exact hgoes.calls
  · intro hmore
    refine (hend.resolve_left ?_).1
    rintro ⟨-, hsame⟩
    rw [hsame] at hmore
    exact hmore rfl
  · intro hnot
    exact (hend.resolve_right fun hstopped => hnot hstopped.1).2

end Repository

end SearchStore
