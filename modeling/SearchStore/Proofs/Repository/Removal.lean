import SearchStore.Proofs.Repository.Creation
import SearchStore.Proofs.Repository.Phases

/-!
The deletion of the indices behind an alias, over an engine that keeps indices. Each index
that is deleted stands behind the alias no more, so when all have been deleted the alias is
gone. It is to be removed all the same, and what the engine answers to that is the result.
-/

namespace SearchStore

variable {κ σ τ ε α : Type}

def Event.begun? {indices : List String} : Event (Fin indices.length) ε α → Option String
  | .began place _ => some (indices.get place)
  | .ended .. => none

/-- An attempt that ended has begun. -/
theorem Event.InTurn.exists_began {key : κ} {events : List (Event κ ε α)}
    {outcomes : List (Except ε α)} (h : InTurn key events outcomes) (hpos : 0 < outcomes.length) :
    ∃ instant, .began key instant ∈ events := by
  cases h with
  | none => simp at hpos
  | next _ beginning _ _ => exact ⟨beginning, List.mem_append_right _ List.mem_cons_self⟩

/-- The indices of all calls that were made. -/
theorem CallsMade.mem_begun {indices : List String} {attempts : Nat}
    {callOf : Fin indices.length → Engine.Call} {before after : Session (EngineState σ)}
    {events : List (Event (Fin indices.length) RepositoryError α)}
    (h : CallsMade attempts callOf before after events) (index : String) :
    index ∈ events.filterMap Event.begun? ↔ index ∈ indices := by
  rw [List.mem_filterMap]
  constructor
  · intro hbegun
    obtain ⟨event, -, hindex⟩ := hbegun
    cases event with
    | began place instant =>
      cases hindex
      exact List.getElem_mem place.isLt
    | ended place instant outcome => cases hindex
  · intro hindex
    obtain ⟨place, hplace, rfl⟩ := List.mem_iff_getElem.mp hindex
    obtain ⟨outcomes, last, hturn, htried⟩ := h.each ⟨place, hplace⟩
    obtain ⟨instant, hbegan⟩ := hturn.exists_began htried.length_pos
    exact ⟨_, (List.mem_filter.mp hbegan).1, rfl⟩

/-- Only the names count of the indices that are taken away. -/
theorem Cluster.without_congr (cluster : Cluster) {names others : List String}
    (h : ∀ name, name ∈ names ↔ name ∈ others) :
    cluster.without names = cluster.without others := by
  simp only [without, h]

namespace Repository

open SearchStore.Repository.Action SearchStore.Task

section Removal

variable {repo : Repository σ} {cluster : σ → Cluster} (hcluster : repo.engine.IsCluster cluster)
  {indices : List String} {before after : Session (EngineState σ)}
  {events : List (Event (Fin indices.length) RepositoryError Unit)}
include hcluster

/-- To empty indices leaves them where they are. -/
theorem cluster_of_emptying
    (h : repo.SeenSideBySide (.deleteByQuery · everything) indices before after events) :
    cluster after.state.engine = cluster before.state.engine := by
  obtain ⟨ended, hevents, -⟩ := h
  refine hevents.keeps
    (P := fun _ state => cluster state.engine = cluster before.state.engine) ?_ ?_ rfl
  · intro _ place n instant state hpast
    exact (hcluster.deleteByQuery indices[place] everything state.engine).trans hpast
  · intro _ _ _ _ _ hpast
    exact hpast

/-- While indices are deleted, those are gone with which an attempt has begun. -/
theorem cluster_of_deleting
    (h : repo.SeenSideBySide .deleteIndex indices before after events) :
    cluster after.state.engine =
      (cluster before.state.engine).without (events.filterMap Event.begun?) := by
  obtain ⟨ended, hevents, -⟩ := h
  refine hevents.keeps (P := fun past state => cluster state.engine =
    (cluster before.state.engine).without (past.filterMap Event.begun?)) ?_ ?_ ?_
  · intro past place n instant state hpast
    have hdeleted : cluster (bareAttempt repo.engine (.deleteIndex indices[place]) n instant
        state).2.engine = (cluster state.engine).without [indices[place]] :=
      hcluster.deleteIndex indices[place] state.engine
    rw [hdeleted, hpast, Cluster.without_without, List.filterMap_append]
    rfl
  · intro past place instant outcome state hpast
    have hnothing : [Event.ended place instant outcome].filterMap Event.begun? = [] := rfl
    rw [hpast, List.filterMap_append, hnothing, List.append_nil]
  · show cluster before.state.engine = (cluster before.state.engine).without []
    simp [Cluster.without]

/-- Calls side by side of which none cancels. -/
theorem cancelledAt_of_seen {kind : String → Engine.Call}
    (h : repo.SeenSideBySide kind indices before after events)
    (huncancelled : before.cancelledAt = none) : after.cancelledAt = none := by
  obtain ⟨ended, hevents, -⟩ := h
  refine hevents.cancelledAt_eq ?_ ?_ huncancelled
  · intro place n now state
    exact hcluster.not_cancels (kind indices[place]) state.engine
  · intro member hmember n attempt hstage
    rw [mem_starting hmember] at hstage
    cases hstage

theorem performs_getAlias (before : Cluster) :
    Performs cluster before (repo.call (.getAlias repo.index))
      (fun indices => ∀ index, index ∈ indices ↔ index ∈ before.members repo.index)
      [.getAlias repo.index] before := by
  refine performs_answered (hcluster.not_cancels _)
    (fun state => (hcluster.getAlias repo.index state).2) ?_
  intro state hstate
  obtain ⟨⟨indices, hanswer, hindices⟩, -⟩ := hcluster.getAlias repo.index state
  rw [hstate] at hindices
  exact ⟨indices, hanswer, hindices⟩

/-- An attempt to remove an alias without indices is refused and changes nothing. -/
theorem attempt_deleteAlias_absent (now : Nat) {state : EngineState σ}
    (habsent : (cluster state.engine).members repo.index = []) :
    (∃ reason, (repo.engine.attempt (.deleteAlias repo.index) now state).1.outcome =
        .error (.engine (.response 404 reason))) ∧
      cluster (repo.engine.attempt (.deleteAlias repo.index) now state).2.engine =
        cluster state.engine := by
  obtain ⟨reason, hreason⟩ := hcluster.deleteAlias_absent repo.index state.engine habsent
  constructor
  · refine ⟨reason, ?_⟩
    rw [Engine.outcome_attempt, hreason]
    rfl
  · have hleft := hcluster.deleteAlias repo.index state.engine
    rw [Cluster.deleteAlias_of_members_eq_nil _ habsent] at hleft
    exact hleft

/-- The removal of an alias without indices is refused, however often it is attempted. -/
theorem call_deleteAlias_absent {session : Session (EngineState σ)}
    (huncancelled : session.cancelledAt = none)
    (habsent : (cluster session.state.engine).members repo.index = []) :
    (∃ reason, (repo.call (.deleteAlias repo.index) session).1 =
        .error (.engine (.response 404 reason))) ∧
      cluster (repo.call (.deleteAlias repo.index) session).2.state.engine =
        cluster session.state.engine := by
  have hattempt (now : Nat) (state : EngineState σ)
      (h : cluster state.engine = cluster session.state.engine) :=
    attempt_deleteAlias_absent hcluster now (by rwa [h])
  have hinvariant : Task.AttemptInvariant repo.retry repo.shouldRetry
      (fun _ now => repo.engine.attempt (.deleteAlias repo.index) now)
      (fun _ state => cluster state.engine = cluster session.state.engine)
      (fun result state => cluster state.engine = cluster session.state.engine ∧
        (result = .error .cancelled ∨
          ∃ reason, result = .error (.failed (.engine (.response 404 reason))))) := {
    cancelled := fun _ _ h => ⟨h, .inl rfl⟩
    interrupted := fun _ now state h => ⟨(hattempt now state h).2.trans h, .inl rfl⟩
    stopped := by
      intro _ now state _ h _
      obtain ⟨⟨reason, hreason⟩, hleft⟩ := hattempt now state h
      refine ⟨hleft.trans h, .inr ⟨reason, ?_⟩⟩
      rw [hreason]
      rfl
    retried := fun _ now state _ h _ => (hattempt now state h).2.trans h }
  obtain ⟨hleft, hresult⟩ := RetryPolicy.execute_induction hinvariant session rfl
  have hcalm : ∀ (n now : Nat) (state : EngineState σ),
      (repo.engine.attempt (.deleteAlias repo.index) now state).1.cancels = false :=
    fun _ _ state => hcluster.not_cancels _ state.engine
  have hnot := RetryPolicy.execute_ne_cancelled hcalm repo.retry repo.shouldRetry session
    huncancelled
  obtain ⟨reason, hreason⟩ := hresult.resolve_left hnot
  exact ⟨⟨reason, congrArg (Except.mapError RetryFailure.toError) hreason⟩, hleft⟩

end Removal

/-- The indices behind an alias are deleted and the alias is gone with them, but the result
is the refusal to remove an alias that is not there. -/
theorem deleteIndex_alias_gone (repo : Repository σ) (cluster : σ → Cluster)
    (hcluster : repo.engine.IsCluster cluster) (hmeasurable : repo.retry.IsMeasurable)
    (hrollover : repo.options.useRolloverAlias = true) (session : Session (EngineState σ))
    (huncancelled : session.cancelledAt = none)
    (hmembers : (cluster session.state.engine).members repo.index ≠ []) :
    (∃ reason, (repo.deleteIndex session).1 = .error (.engine (.response 404 reason))) ∧
      cluster (repo.deleteIndex session).2.state.engine =
        (cluster session.state.engine).without
          ((cluster session.state.engine).members repo.index) ∧
      (cluster (repo.deleteIndex session).2.state.engine).members repo.index = [] ∧
      (repo.deleteIndex session).2.overflowed = session.overflowed := by
  have hknown := Cluster.knows_of_members_ne_nil _ hmembers
  have hasks := performs_indexExists repo hcluster.toRegistersIndices _ repo.index session
    huncancelled rfl
  obtain ⟨known, hasked, hexists⟩ := hasks.result
  rw [hexists, hknown] at hasked
  have hlists := performs_getAlias hcluster (cluster session.state.engine)
  have hlist := hlists _ hasks.cancelledAt_eq hasks.cluster_eq
  obtain ⟨indices, hlisted, hindices⟩ := hlist.result
  obtain ⟨emptied, deleted, emptying, deleting, hemptying, hdeleting, hrun⟩ :=
    deleteIndexBy_of_listed repo.makesSideBySide_sideBySide hrollover (Prod.ext hasked rfl)
      (Prod.ext hlisted rfl)
  rw [deleteIndexBy_sideBySide] at hrun
  have hcalm := cancelledAt_of_seen hcluster hdeleting
    (cancelledAt_of_seen hcluster hemptying hlist.cancelledAt_eq)
  -- No order of the deletions matters: each index has been tried, so each is gone.
  have hleft : cluster deleted.state.engine = (cluster session.state.engine).without
      ((cluster session.state.engine).members repo.index) := by
    have hcalmEnd : deleted.isCancelled = false := by
      rw [Session.isCancelled, hcalm]
      rfl
    have hbegun := (hdeleting.callsMade hcalmEnd).mem_begun
    rw [cluster_of_deleting hcluster hdeleting, cluster_of_emptying hcluster hemptying,
      hlist.cluster_eq]
    exact Cluster.without_congr _ fun index => (hbegun index).trans (hindices index)
  have habsent : (cluster deleted.state.engine).members repo.index = [] := by
    rw [hleft]
    exact Cluster.members_without_of_subset _ fun _ hmember => hmember
  obtain ⟨hrefused, hunchanged⟩ := call_deleteAlias_absent hcluster hcalm habsent
  have hmeasured := repo.makesSideBySide_sideBySide.keepsMeasured_deleteIndexBy hmeasurable session
  rw [deleteIndexBy_sideBySide, hrun] at hmeasured
  rw [hrun, hunchanged]
  exact ⟨hrefused, hleft, habsent, hmeasured⟩

/-- Two indices behind the alias of the journal, and one behind another. -/
def threeIndices : Session (EngineState Cluster) :=
  .start { engine := { indices := [⟨"journal-000001", .obj [], [("journal", false)]⟩,
    ⟨"journal-000002", .obj [], [("journal", true)]⟩,
    ⟨"ledger-000001", .obj [], [("ledger", true)]⟩] } } none

/-- The indices and the alias are gone, but the deletion is said to have failed. -/
theorem deleteIndex_alias_gone_journal :
    (∃ reason, (journal.deleteIndex threeIndices).1 = .error (.engine (.response 404 reason))) ∧
      (journal.deleteIndex threeIndices).2.state.engine.indices.map IndexEntry.name =
        ["ledger-000001"] ∧
      (journal.deleteIndex threeIndices).2.state.engine.members "journal" = [] := by
  obtain ⟨hrefused, hleft, habsent, -⟩ := deleteIndex_alias_gone journal id
    Engine.isCluster_catalog (RetryPolicy.isMeasurable_ofAttempts (by decide)) rfl threeIndices rfl
    (by decide)
  have hnames : (threeIndices.state.engine.without
      (threeIndices.state.engine.members "journal")).indices.map IndexEntry.name =
        ["ledger-000001"] := by
    decide
  have hindices := congrArg (fun cluster => cluster.indices.map IndexEntry.name) hleft
  exact ⟨hrefused, hindices.trans hnames, habsent⟩

end Repository

end SearchStore
