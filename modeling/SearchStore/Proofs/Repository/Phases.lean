import SearchStore.Proofs.Repository.Requests
import SearchStore.Proofs.Retry.Interleaving

/-!
The deletion of the indices behind an alias, call by call. The indices are emptied side by
side, in whatever order the steps of these calls are taken, and deleted side by side when
all have been emptied. The alias is deleted when all indices have been, and what comes of
that is what comes of the whole.
-/

namespace SearchStore

variable {κ σ ε α : Type}

def Event.record? (callOf : κ → Engine.Call) : Event κ ε α → Option (Nat × Engine.Call)
  | .began key instant => some (instant, callOf key)
  | .ended .. => none

/-- Calls are made, and no others: each one by attempts of which one begins when the other
has ended, at least one and not too many. -/
structure CallsMade [DecidableEq κ] (attempts : Nat) (callOf : κ → Engine.Call)
    (before after : Session (EngineState σ)) (events : List (Event κ RepositoryError α)) :
    Prop where
  each : ∀ key, ∃ outcomes last,
    Event.InTurn key (events.filter (·.key = key)) outcomes ∧ Tried attempts outcomes last
  recorded : after.state.calls =
    (events.filterMap (Event.record? callOf)).reverse ++ before.state.calls
  timed : Event.Timed before.now after.now events

section Interleaving

variable {policy : RetryPolicy} {retry : RepositoryError → Bool}
  {operation : κ → Operation (EngineState σ) RepositoryError α}
  {session final : Session (EngineState σ)} {callOf : κ → Engine.Call}

/-- What every attempt records is on record in the order of the attempts. -/
theorem Task.Interleaving.calls_eq {tasks ended : List (κ × Task RepositoryError α)}
    {events : List (Event κ RepositoryError α)}
    (h : Interleaving policy retry operation tasks session ended final events)
    (hrecords : ∀ key n now state,
      (operation key n now state).2.calls = (now, callOf key) :: state.calls) :
    final.state.calls =
      (events.filterMap (Event.record? callOf)).reverse ++ session.state.calls := by
  refine h.keeps (P := fun events state => state.calls =
    (events.filterMap (Event.record? callOf)).reverse ++ session.state.calls) ?_ ?_ rfl
  · intro past key n instant state hpast
    rw [hrecords, hpast, List.filterMap_append, List.reverse_append, List.append_assoc]
    rfl
  · intro past key instant outcome state hpast
    rw [hpast, List.filterMap_append]
    simp [Event.record?]

theorem Task.Interleaving.callsMade [DecidableEq κ] {keys : List κ} {instant : Nat}
    {ended : List (κ × Task RepositoryError α)} {events : List (Event κ RepositoryError α)}
    (h : Interleaving policy retry operation (starting keys instant) session ended final events)
    (hnodup : keys.Nodup) (hall : ∀ key, key ∈ keys)
    (hended : ∀ member ∈ ended, member.2.result?.isSome) (hfinal : final.isCancelled = false)
    (hrecords : ∀ key n now state,
      (operation key n now state).2.calls = (now, callOf key) :: state.calls) :
    CallsMade policy.maxAttempts callOf session final events where
  each key := h.inTurn hnodup hended hfinal (hall key)
  recorded := h.calls_eq hrecords
  timed := h.timed

end Interleaving

namespace Repository

open SearchStore.Repository.Action SearchStore.Task

abbrev Making (σ : Type) := (String → Engine.Call) → List String → Action σ Unit

section SideBySide

variable (repo : Repository σ)

/-- What is seen between two sessions while calls of a kind are made side by side: each is
attempted to its end, in some order of their steps. -/
def SeenSideBySide (kind : String → Engine.Call) (indices : List String)
    (before after : Session (EngineState σ))
    (events : List (Event (Fin indices.length) RepositoryError Unit)) : Prop :=
  ∃ ended,
    Interleaving repo.retry repo.shouldRetry
      (fun place : Fin indices.length => bareAttempt repo.engine (kind indices[place]))
      (starting (List.finRange indices.length) before.now) before ended after events ∧
    ∀ member ∈ ended, member.2.result?.isSome

/-- Calls are made side by side, and how they end does not matter. -/
def MakesSideBySide (making : Making σ) : Prop :=
  ∀ kind indices session, (making kind indices session).1 = .ok () ∧
    ∃ events, repo.SeenSideBySide kind indices session (making kind indices session).2 events

def sideBySide : Making σ := fun kind indices => repo.callAll (indices.map kind)

theorem makesSideBySide_sideBySide : repo.MakesSideBySide repo.sideBySide := by
  intro kind indices session
  obtain ⟨ended, final, events, hevents, hended, hrun⟩ := runAll_interleaving repo.retry
    repo.shouldRetry
    (fun place : Fin indices.length => bareAttempt repo.engine (kind indices[place]))
    (List.finRange indices.length) session
  have hplaces : (indices.map fun index => bareAttempt repo.engine (kind index)) =
      (List.finRange indices.length).map fun place =>
        bareAttempt repo.engine (kind indices[place]) := by
    apply List.ext_getElem
    · simp
    · intro place _ _
      simp
  have hmade : repo.sideBySide kind indices session = (.ok (), final) := by
    rw [sideBySide, callAll_eq, RetryPolicy.executeAll, hplaces, members_starting, hrun]
  rw [hmade]
  exact ⟨rfl, events, ended, hevents, hended⟩

def deleteIndexBy (making : Making σ) : Action σ Unit := do
  let rolled ← if repo.options.useRolloverAlias then repo.indexExists repo.index else pure false
  if rolled then
    let members ← repo.call (.getAlias repo.index)
    making (.deleteByQuery · everything) members
    making .deleteIndex members
    repo.call (.deleteAlias repo.index)
  else
    repo.call (.deleteByQuery repo.index everything)
    repo.call (.deleteIndex repo.index)

theorem deleteIndexBy_sideBySide : repo.deleteIndexBy repo.sideBySide = repo.deleteIndex := rfl

variable {repo} {kind : String → Engine.Call} {indices : List String}
  {before after : Session (EngineState σ)}
  {events : List (Event (Fin indices.length) RepositoryError Unit)}

theorem SeenSideBySide.callsMade (h : repo.SeenSideBySide kind indices before after events)
    (hfinal : after.isCancelled = false) :
    CallsMade repo.retry.maxAttempts (fun place : Fin indices.length => kind indices[place])
      before after events := by
  obtain ⟨ended, hevents, hended⟩ := h
  exact hevents.callsMade (List.nodup_finRange _) List.mem_finRange hended hfinal
    fun _ _ _ _ => rfl

theorem SeenSideBySide.isCancelled_before (h : repo.SeenSideBySide kind indices before after events)
    (hfinal : after.isCancelled = false) : before.isCancelled = false := by
  obtain ⟨ended, hevents, -⟩ := h
  rw [Bool.eq_false_iff]
  intro hcancelled
  rw [hevents.isCancelled hcancelled] at hfinal
  cases hfinal

variable {making : Making σ} {session asked listed : Session (EngineState σ)}

theorem MakesSideBySide.keepsMeasured (hmaking : repo.MakesSideBySide making)
    (hmeasurable : repo.retry.IsMeasurable) (kind : String → Engine.Call)
    (indices : List String) : KeepsMeasured (making kind indices) := by
  intro session
  obtain ⟨-, events, ended, hevents, -⟩ := hmaking kind indices session
  exact hevents.overflowed_eq hmeasurable

theorem MakesSideBySide.keepsMeasured_deleteIndexBy (hmaking : repo.MakesSideBySide making)
    (hmeasurable : repo.retry.IsMeasurable) : KeepsMeasured (repo.deleteIndexBy making) := by
  have hcall := keepsMeasured_call hmeasurable
  have hrest (rolled : Bool) : KeepsMeasured (if rolled then do
        let members ← repo.call (.getAlias repo.index)
        making (.deleteByQuery · everything) members
        making .deleteIndex members
        repo.call (.deleteAlias repo.index)
      else do
        repo.call (.deleteByQuery repo.index everything)
        repo.call (.deleteIndex repo.index)) := by
    cases rolled with
    | false => exact (hcall _).bind fun _ => hcall _
    | true =>
      refine (hcall _).bind fun members => ?_
      have hemptied := hmaking.keepsMeasured hmeasurable (.deleteByQuery · everything) members
      have hdeleted := hmaking.keepsMeasured hmeasurable .deleteIndex members
      exact hemptied.bind fun _ => hdeleted.bind fun _ => hcall _
  unfold deleteIndexBy
  split
  · exact (hcall _).bind hrest
  · exact (KeepsMeasured.pure false).bind hrest

/-- The deletion behind an alias, once its indices are known. -/
theorem deleteIndexBy_of_listed (hmaking : repo.MakesSideBySide making)
    (hrollover : repo.options.useRolloverAlias = true)
    (hasked : repo.indexExists repo.index session = (.ok true, asked))
    (hlisted : repo.call (.getAlias repo.index) asked = (.ok indices, listed)) :
    ∃ emptied deleted emptying deleting,
      repo.SeenSideBySide (.deleteByQuery · everything) indices listed emptied emptying ∧
      repo.SeenSideBySide .deleteIndex indices emptied deleted deleting ∧
      repo.deleteIndexBy making session = repo.call (.deleteAlias repo.index) deleted := by
  obtain ⟨hemptied, emptying, hemptying⟩ := hmaking (.deleteByQuery · everything) indices listed
  obtain ⟨hdeleted, deleting, hdeleting⟩ := hmaking .deleteIndex indices
    (making (.deleteByQuery · everything) indices listed).2
  refine ⟨_, _, emptying, deleting, hemptying, hdeleting, ?_⟩
  simp only [deleteIndexBy, hrollover, if_true]
  rw [run_bind_ok hasked]
  simp only [if_true]
  rw [run_bind_ok hlisted, run_bind_ok (Prod.ext hemptied rfl), run_bind_ok (Prod.ext hdeleted rfl)]

end SideBySide

/-- A call by itself, attempt by attempt. -/
theorem exists_callsMade_call (repo : Repository σ) (call : Engine.Call)
    (session : Session (EngineState σ)) (h : (repo.call call session).2.isCancelled = false) :
    ∃ events : List (Event Unit RepositoryError call.Answer),
      CallsMade repo.retry.maxAttempts (fun _ => call) session (repo.call call session).2
        events := by
  obtain ⟨ended, final, events, hevents, hended, hrun⟩ := runAll_interleaving repo.retry
    repo.shouldRetry (fun _ _ now => repo.engine.attempt call now) [()] session
  have hfinal : (repo.call call session).2 = final :=
    congrArg Prod.snd ((runAll_singleton repo.retry repo.shouldRetry _ _ session).symm.trans hrun)
  rw [hfinal] at h ⊢
  exact ⟨events, hevents.callsMade (by simp) (fun _ => List.mem_singleton_self _)
    hended h fun _ _ _ _ => rfl⟩

/-- The deletion of indices behind an alias, once they are known: the calls that empty them,
those that delete them, and the one that deletes the alias, with which the deletion ends. -/
structure DeletedInPhases (repo : Repository σ) (indices : List String)
    (listed emptied deleted : Session (EngineState σ))
    (emptying deleting : List (Event (Fin indices.length) RepositoryError Unit))
    (unaliasing : List (Event Unit RepositoryError Unit))
    (run : Except RepositoryError Unit × Session (EngineState σ)) : Prop where
  emptying_seen : repo.SeenSideBySide (.deleteByQuery · everything) indices listed emptied emptying
  emptying_made : CallsMade repo.retry.maxAttempts
    (fun place : Fin indices.length => .deleteByQuery indices[place] everything)
    listed emptied emptying
  deleting_seen : repo.SeenSideBySide .deleteIndex indices emptied deleted deleting
  deleting_made : CallsMade repo.retry.maxAttempts
    (fun place : Fin indices.length => .deleteIndex indices[place]) emptied deleted deleting
  unaliasing_made : CallsMade repo.retry.maxAttempts (fun _ => .deleteAlias repo.index)
    deleted run.2 unaliasing
  emptied_first : ∀ event ∈ emptying, ∀ next ∈ deleting, event.instant ≤ next.instant
  deleted_first : ∀ event ∈ deleting, ∀ next ∈ unaliasing, event.instant ≤ next.instant
  run_eq : run = repo.call (.deleteAlias repo.index) deleted

/-- The indices behind an alias are all emptied, then all deleted, and the result is that of
the deletion of the alias, whichever way the calls are made side by side. -/
theorem deleteIndex_phases (repo : Repository σ) (hmeasurable : repo.retry.IsMeasurable)
    (hrollover : repo.options.useRolloverAlias = true) :
    (repo.MakesSideBySide repo.sideBySide ∧
      repo.deleteIndexBy repo.sideBySide = repo.deleteIndex) ∧
    ∀ making, repo.MakesSideBySide making → ∀ session asked listed indices,
      repo.indexExists repo.index session = (.ok true, asked) →
      repo.call (.getAlias repo.index) asked = (.ok indices, listed) →
      (repo.deleteIndexBy making session).2.isCancelled = false →
      (repo.deleteIndexBy making session).2.overflowed = session.overflowed ∧
        ∃ emptied deleted emptying deleting unaliasing,
          repo.DeletedInPhases indices listed emptied deleted emptying deleting unaliasing
            (repo.deleteIndexBy making session) := by
  refine ⟨⟨repo.makesSideBySide_sideBySide, repo.deleteIndexBy_sideBySide⟩, ?_⟩
  intro making hmaking session asked listed indices hasked hlisted hfinal
  obtain ⟨emptied, deleted, emptying, deleting, hemptying, hdeleting, hrun⟩ :=
    deleteIndexBy_of_listed hmaking hrollover hasked hlisted
  rw [hrun] at hfinal ⊢
  constructor
  · rw [← hrun]
    exact hmaking.keepsMeasured_deleteIndexBy hmeasurable session
  · have hdeleted := (keepsCancelled_call repo (.deleteAlias repo.index)).eq_false hfinal
    have hemptied := hdeleting.isCancelled_before hdeleted
    have hemptyingMade := hemptying.callsMade hemptied
    have hdeletingMade := hdeleting.callsMade hdeleted
    -- The session between two phases parts their events.
    obtain ⟨unaliasing, hunaliasing⟩ := repo.exists_callsMade_call _ deleted hfinal
    refine ⟨emptied, deleted, emptying, deleting, unaliasing, hemptying, hemptyingMade,
      hdeleting, hdeletingMade, hunaliasing, ?_, ?_, rfl⟩
    · intro event hevent next hnext
      have hearlier := (hemptyingMade.timed.during event hevent).2
      have hlater := (hdeletingMade.timed.during next hnext).1
      omega
    · intro event hevent next hnext
      have hearlier := (hdeletingMade.timed.during event hevent).2
      have hlater := (hunaliasing.timed.during next hnext).1
      omega

def ordersLosing : Repository (List String × Losses 3) := orders.withEngine (aliased.losing 3)

/-- Two indices are deleted in phases in spite of losses. -/
theorem deleteIndex_phases_orders :
    let run := ordersLosing.deleteIndex (twoIndices.losing someLosses)
    run.1 = .ok () ∧ run.2.overflowed = false ∧
      ∃ listed emptied deleted emptying deleting unaliasing,
        ordersLosing.DeletedInPhases ["orders-000001", "orders-000002"] listed emptied deleted
          emptying deleting unaliasing run := by
  intro run
  have hasked : (ordersLosing.indexExists ordersLosing.index (twoIndices.losing someLosses)).1 =
      .ok true := by
    decide +kernel
  have hlisted : (ordersLosing.call (.getAlias ordersLosing.index)
      (ordersLosing.indexExists ordersLosing.index (twoIndices.losing someLosses)).2).1 =
      .ok ["orders-000001", "orders-000002"] := by
    decide +kernel
  have hends : run.1 = .ok () ∧ run.2.isCancelled = false := by
    decide +kernel
  obtain ⟨⟨hsideBySide, -⟩, hphases⟩ := deleteIndex_phases ordersLosing
    (RetryPolicy.isMeasurable_ofAttempts (by decide)) rfl
  obtain ⟨hmeasured, hdeleted⟩ := hphases _ hsideBySide _ _ _ _ (Prod.ext hasked rfl)
    (Prod.ext hlisted rfl) hends.2
  exact ⟨hends.1, hmeasured, _, hdeleted⟩

/-- The repository behind an alias with waits that grow by a unit. The one after 1001
attempts cannot be measured. -/
def slowAlias : Repository (List String × Losses 1002) :=
  { slowOrders with options := { index := "orders", useRolloverAlias := true } }.withEngine
    (aliased.losing 1002)

/-- The first attempt to empty an index is lost, and a thousand more. -/
def hardToEmpty : Losses 1002 :=
  { manyLosses with
    inOrder := []
    emptying := fun _ =>
      ⟨lost :: List.replicate 1000 lost, by rw [List.length_cons, List.length_replicate]; omega⟩ }

def oneIndex : Session (EngineState (List String)) :=
  .start { engine := ["orders-000001"] } none

/-- Where a wait of one call cannot be measured, the deletion comes to no result. -/
theorem not_deleteIndex_phases_unmeasurable :
    let asked := slowAlias.indexExists slowAlias.index (oneIndex.losing hardToEmpty)
    let listed := slowAlias.call (.getAlias slowAlias.index) asked.2
    let run := slowAlias.deleteIndex (oneIndex.losing hardToEmpty)
    asked.1 = .ok true ∧ listed.1 = .ok ["orders-000001"] ∧
      run.2.isCancelled = false ∧ (oneIndex.losing hardToEmpty).overflowed = false ∧
      run.2.overflowed = true := by
  intro asked listed run
  decide +kernel

end Repository

end SearchStore
