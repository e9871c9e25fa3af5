import SearchStore.Proofs.Bulk.Resending
import Mathlib.Data.List.Chain

/-!
What the answers of the engine make of the requests for a chunk. A request that failed as
a whole is made again as it was; one of which items were rejected is followed by one for
the actions that go under the ids of these items; no other is followed at all.

So what the engine acknowledged is not sent again, and if the engine has an item for each
action, every action that a failed chunk does not report was acknowledged.
-/

namespace SearchStore

variable {σ : Type}

theorem BulkResponse.mem_failedItems {response : BulkResponse} {item : BulkItem} :
    item ∈ response.failedItems ↔ item ∈ response.items ∧ item.isSuccess = false := by
  simp [failedItems]

namespace BulkRequest

def FollowedBy (request next : BulkRequest) : Prop :=
  match request.2 with
  | .error _ => next.1 = request.1
  | .ok response =>
    if response.status = 200 then
      response.failedItems ≠ [] ∧
        next.1 = request.1.filter fun action => response.failedItems.any (·.id == action.id)
    else response.status ≠ 400 ∧ response.status ≠ 413 ∧ next.1 = request.1

/-- An answer with status 200 has one item for each action, under its id. -/
def Echoes (request : BulkRequest) : Prop :=
  ∀ response, request.2 = .ok response → response.status = 200 →
    (response.items.map (·.id)).Perm (request.1.map (·.id))

/-- The request was answered with items under an id, and none of these was rejected. -/
def Acknowledges (request : BulkRequest) (id : String) : Prop :=
  ∃ response, request.2 = .ok response ∧ response.status = 200 ∧
    (∃ item ∈ response.items, item.id = id) ∧
    ∀ item ∈ response.items, item.id = id → item.isSuccess = true

/-- Where items echo actions, an action under whose id nothing was rejected was
acknowledged. -/
theorem acknowledges_of_echoes {actions : List BulkAction} {response : BulkResponse}
    (hechoes : Echoes (actions, .ok response)) (hstatus : response.status = 200)
    {action : BulkAction} (haction : action ∈ actions)
    (hunfailed : ∀ item ∈ response.failedItems, item.id ≠ action.id) :
    Acknowledges (actions, .ok response) action.id := by
  refine ⟨response, rfl, hstatus, ?_, fun item hitem hid => ?_⟩
  · exact List.mem_map.mp ((hechoes response rfl hstatus).mem_iff.mpr (List.mem_map_of_mem haction))
  · cases hsuccess : item.isSuccess with
    | true => rfl
    | false =>
      exact absurd hid (hunfailed item (BulkResponse.mem_failedItems.mpr ⟨hitem, hsuccess⟩))

/-- What was acknowledged is not in the request that follows. -/
theorem FollowedBy.ne_of_acknowledges {request next : BulkRequest} {id : String}
    (h : FollowedBy request next) (hacknowledges : Acknowledges request id) :
    ∀ action ∈ next.1, action.id ≠ id := by
  obtain ⟨response, hanswer, hstatus, -, hsuccess⟩ := hacknowledges
  simp only [FollowedBy, hanswer, if_pos hstatus] at h
  rintro action haction rfl
  rw [h.2] at haction
  obtain ⟨item, hfailed, hid⟩ := List.any_eq_true.mp (List.mem_filter.mp haction).2
  obtain ⟨hitem, hrejected⟩ := BulkResponse.mem_failedItems.mp hfailed
  rw [hsuccess item hitem (eq_of_beq hid)] at hrejected
  cases hrejected

theorem FollowedBy.subset {request next : BulkRequest} (h : FollowedBy request next) :
    next.1 ⊆ request.1 := by
  unfold FollowedBy at h
  split at h
  · rw [h]
    exact List.Subset.refl _
  · split at h
    · rw [h.2]
      exact List.filter_subset_self _
    · rw [h.2.2]
      exact List.Subset.refl _

end BulkRequest

def Engine.EchoesActions (engine : Engine σ) : Prop :=
  ∀ index actions state, BulkRequest.Echoes (actions, engine.answer (.bulk index actions) state)

namespace Repository

open BulkRequest

theorem actionsToResend_eq (actions : List BulkAction) (items : List BulkItem) :
    actionsToResend actions items =
      actions.filter fun action => items.any (·.id == action.id) := by
  apply List.filter_congr
  intro action _
  rw [Bool.eq_iff_iff]
  simp [Std.HashSet.contains_ofList]

/-- An attempt that failed is followed by a request for what it left to send. -/
theorem followedBy_leftToSend {chunk : Nat} {request : BulkRequest} {error : RepositoryError}
    (h : chunkResult chunk request.1 request.2 = .error error)
    (answer : Except EngineError BulkResponse) :
    request.FollowedBy (leftToSend request.1 request.2, answer) := by
  obtain ⟨actions, answered⟩ := request
  cases answered with
  | error _ => rfl
  | ok response =>
    simp only [chunkResult, chunkOutcome, isFinalRefusal_iff] at h
    simp only [FollowedBy, leftToSend]
    split at h
    · cases h
    · next hfinal =>
      obtain ⟨hbad, hlarge⟩ := not_or.mp hfinal
      by_cases hstatus : response.status = 200
      · have hfailed : response.failedItems ≠ [] := by
          intro hnone
          rw [if_neg (not_not_intro hstatus), hnone] at h
          cases h
        rw [if_pos hstatus, if_pos ⟨hstatus, hfailed⟩]
        exact ⟨hfailed, actionsToResend_eq actions response.failedItems⟩
      · rw [if_neg hstatus, if_neg fun hboth => hstatus hboth.1]
        exact ⟨hbad, hlarge, rfl⟩

/-- A chunk that failed reports what was rejected, or all it sent last. -/
theorem reported_of_chunkResult_eq {chunk number : Nat} {actions : List BulkAction}
    {answer : Except EngineError BulkResponse} {ids : List String} {reason : String}
    (h : chunkResult chunk actions answer = .error (.bulk (.chunkFailed number ids reason))) :
    ids = actions.map (·.id) ∨ ∃ response, answer = .ok response ∧ response.status = 200 ∧
      ids = response.failedItems.map (·.id) := by
  cases answer with
  | error error => cases h
  | ok response =>
    simp only [chunkResult, chunkOutcome] at h
    split at h
    · cases h
    · by_cases hstatus : response.status = 200
      · rw [if_neg (not_not_intro hstatus)] at h
        cases hfailed : response.failedItems with
        | nil =>
          rw [hfailed] at h
          cases h
        | cons first others =>
          rw [hfailed] at h
          cases h
          exact .inr ⟨response, rfl, hstatus, by rw [hfailed]⟩
      · rw [if_pos hstatus] at h
        cases h
        exact .inl rfl

/-- Where items echo actions, a chunk that failed reports ids of the request, and what it
does not report was acknowledged. -/
theorem acknowledges_of_not_reported {chunk number : Nat} {request : BulkRequest}
    {ids : List String} {reason : String} (hechoes : request.Echoes)
    (h : chunkResult chunk request.1 request.2 =
      .error (.bulk (.chunkFailed number ids reason))) :
    ids ⊆ request.1.map (·.id) ∧
      ∀ action ∈ request.1, action.id ∉ ids → request.Acknowledges action.id := by
  obtain ⟨actions, answer⟩ := request
  rcases reported_of_chunkResult_eq h with rfl | ⟨response, rfl, hstatus, rfl⟩
  · exact ⟨List.Subset.refl _, fun action haction hid => absurd (List.mem_map_of_mem haction) hid⟩
  · have hechoed := hechoes response rfl hstatus
    refine ⟨fun id hid => ?_, fun action haction hid => ?_⟩
    · obtain ⟨item, hitem, rfl⟩ := List.mem_map.mp hid
      exact hechoed.mem_iff.mp
        (List.mem_map_of_mem (BulkResponse.mem_failedItems.mp hitem).1)
    · apply acknowledges_of_echoes hechoes hstatus haction
      intro item hitem heq
      exact hid (heq ▸ List.mem_map_of_mem hitem)

namespace Resends

variable {first left : List BulkAction} {requests : List BulkRequest}

theorem left_eq (h : Resends first requests left) :
    ∀ last ∈ requests.getLast?, left = leftToSend last.1 last.2 := by
  cases h with
  | nil => simp
  | sent answer h =>
    intro last hlast
    rw [List.getLast?_concat, Option.mem_some_iff] at hlast
    rw [← hlast]

theorem left_eq_first (h : Resends first requests left) (hnone : requests = []) :
    left = first := by
  cases h with
  | nil => rfl
  | sent answer h => simp at hnone

theorem head_eq (h : Resends first requests left) :
    ∀ request ∈ requests.head?, request.1 = first := by
  induction h with
  | nil => simp
  | @sent requests left answer h ih =>
    cases requests with
    | nil => simp [h.left_eq_first rfl]
    | cons request rest => exact ih

/-- When all but the last request failed, each is the one that follows the one before. -/
theorem isChain (h : Resends first requests left) {chunk : Nat}
    (hfailed : ∀ request ∈ requests.dropLast, ∃ error,
      chunkResult chunk request.1 request.2 = .error error) :
    requests.IsChain FollowedBy := by
  induction h with
  | nil => exact .nil
  | @sent requests left answer h ih =>
    rw [List.dropLast_concat] at hfailed
    refine (ih fun request hrequest => hfailed request (List.dropLast_subset _ hrequest)).append
      (.singleton _) ?_
    intro last hlast next hnext
    obtain ⟨error, herror⟩ := hfailed last (List.mem_of_getLast? hlast)
    rw [List.head?_singleton, Option.mem_some_iff] at hnext
    rw [← hnext, h.left_eq last hlast]
    exact followedBy_leftToSend herror answer

/-- Where items echo actions, what is no longer left to send was acknowledged. -/
theorem acknowledged (h : Resends first requests left)
    (hechoes : ∀ request ∈ requests, request.Echoes) {action : BulkAction}
    (haction : action ∈ first) :
    action ∈ left ∨ ∃ request ∈ requests, action ∈ request.1 ∧ request.Acknowledges action.id := by
  induction h with
  | nil => exact .inl haction
  | @sent requests left answer h ih =>
    rcases ih fun request hrequest => hechoes request (List.mem_append_left _ hrequest) with
      hleft | ⟨request, hrequest, hknown⟩
    · by_cases hsends : action ∈ leftToSend left answer
      · exact .inl hsends
      · refine .inr ⟨(left, answer), by simp, hleft, ?_⟩
        cases answer with
        | error error => exact absurd hleft hsends
        | ok response =>
          by_cases hrejected : response.status = 200 ∧ response.failedItems ≠ []
          · rw [leftToSend, if_pos hrejected, mem_actionsToResend] at hsends
            refine acknowledges_of_echoes (hechoes _ (by simp)) hrejected.1 hleft ?_
            exact fun item hitem hid => hsends ⟨hleft, item, hitem, hid⟩
          · rw [leftToSend, if_neg hrejected] at hsends
            exact absurd hleft hsends
    · exact .inr ⟨request, List.mem_append_left _ hrequest, hknown⟩

end Resends

/-- The requests that are made of an engine whose items echo actions. -/
theorem ChunkRun.IsFrom.echoes {run : ChunkRun} {repo : Repository σ} {chunk : Nat}
    {session : Session (EngineState σ)} (h : run.IsFrom repo chunk session)
    (hengine : repo.engine.EchoesActions) : ∀ request ∈ run.requests, request.Echoes := by
  intro request hrequest
  obtain ⟨state, hstate⟩ := h.exchanged.states.exists_answer (List.mem_map_of_mem hrequest)
  have hanswer : request.2 = repo.engine.answer (.bulk repo.index request.1) state := hstate
  have hechoes := hengine repo.index request.1 state
  rwa [← hanswer] at hechoes

structure ChunkRun.FollowsAnswers (run : ChunkRun) : Prop where
  /-- The first request is for the whole chunk. -/
  head_eq : ∀ request ∈ run.requests.head?, request.1 = run.actions
  isChain : run.requests.IsChain FollowedBy
  /-- What was acknowledged is in no later request. -/
  not_again : ∀ earlier request later, run.requests = earlier ++ request :: later →
    ∀ id, request.Acknowledges id → ∀ next ∈ later, ∀ action ∈ next.1, action.id ≠ id
  /-- A chunk that failed reports ids of the last request, and every action with another
  id was acknowledged. -/
  of_failed : (∀ request ∈ run.requests, request.Echoes) → ∀ number ids reason,
    run.result = .error (.bulk (.chunkFailed number ids reason)) →
    ∃ earlier last, run.requests = earlier ++ [last] ∧ ids ⊆ last.1.map (·.id) ∧
      ∀ action ∈ run.actions, action.id ∉ ids →
        ∃ request ∈ run.requests, action ∈ request.1 ∧ request.Acknowledges action.id

/-- In a chain of requests, what one acknowledges is not in the ones after it. -/
theorem not_again_of_isChain {request : BulkRequest} {later : List BulkRequest} {id : String}
    (h : (request :: later).IsChain FollowedBy) (hacknowledges : request.Acknowledges id) :
    ∀ next ∈ later, ∀ action ∈ next.1, action.id ≠ id := by
  cases later with
  | nil => simp
  | cons next rest =>
    have hnext := (List.isChain_cons_cons.mp h).1.ne_of_acknowledges hacknowledges
    have hrest := (List.isChain_cons_cons.mp h).2
    -- what follows a request without the id is without it too
    clear h
    induction rest generalizing next with
    | nil => simpa using hnext
    | cons after rest ih =>
      have hafter := (List.isChain_cons_cons.mp hrest).1.subset
      rw [List.forall_mem_cons]
      exact ⟨hnext, ih after (fun action haction => hnext action (hafter haction))
        (List.isChain_cons_cons.mp hrest).2⟩

/-- The requests that are made for a chunk, cancelled or not, follow the answers to them. -/
theorem sendChunk_follows_answers (repo : Repository σ) (chunk : Nat) (actions : List BulkAction)
    (session : Session (EngineState σ)) :
    ∃ run : ChunkRun, run.actions = actions ∧ run.IsFrom repo chunk session ∧
      run.FollowsAnswers := by
  obtain ⟨requests, ⟨left, hsent⟩, hfailed, hended⟩ :=
    repo.sentThrough_sendChunk chunk actions session
  have hchain := hsent.resends.isChain hfailed
  refine ⟨⟨actions, requests, (repo.sendChunk chunk actions session).1⟩, rfl,
    ⟨rfl, hsent.exchanged⟩, hsent.resends.head_eq, hchain, ?_, ?_⟩
  · rintro earlier request later hrequests id hacknowledges
    change requests = _ at hrequests
    rw [hrequests] at hchain
    exact not_again_of_isChain hchain.right_of_append hacknowledges
  · intro hechoes number ids reason hresult
    rcases hended with hcancelled | ⟨earlier, last, rfl, hresends, hlast⟩
    · exact absurd (hcancelled.symm.trans hresult) (by simp)
    · obtain ⟨hids, hunreported⟩ := acknowledges_of_not_reported
        (hechoes last (by simp)) (hlast.symm.trans hresult)
      refine ⟨earlier, last, rfl, hids, fun action haction hid => ?_⟩
      rcases hresends.acknowledged
        (fun request hrequest => hechoes request (List.mem_append_left _ hrequest)) haction with
        hleft | ⟨request, hrequest, hknown⟩
      · exact ⟨last, by simp, hleft, hunreported action hleft hid⟩
      · exact ⟨request, List.mem_append_left _ hrequest, hknown⟩

/-- An engine that is too busy for one document, on which a chunk is sent once. -/
def busyFor (id : String) : Repository Unit where
  options := { index := "orders" }
  schema := ⟨"Order", []⟩
  retry := .ofAttempts 1
  engine := {
    respond call _ :=
      match call with
      | .bulk _ actions => ({ outcome := .ok { status := 200, items := actions.map fun action =>
          { id := action.id, status := if action.id = id then 429 else 200 } } }, ())
      | _ => ({ outcome := .error (.unexpected "unknown call") }, ()) }

theorem echoesActions_busyFor (id : String) : (busyFor id).engine.EchoesActions := by
  intro index actions state response hanswer _
  cases hanswer
  rw [List.map_map]
  exact .refl _

/-- Of two documents the one that is not reported was acknowledged. -/
theorem sendChunk_follows_answers_busyFor :
    ∃ run : ChunkRun, run.IsFrom (busyFor "b") 0 (.start { engine := () } none) ∧
      run.FollowsAnswers ∧
      run.result = .error (.bulk (.chunkFailed 0 ["b"] "status 429")) ∧
      ∃ request ∈ run.requests, request.Acknowledges "a" := by
  obtain ⟨run, hactions, hrun, hfollows⟩ := sendChunk_follows_answers (busyFor "b") 0
    [.delete "a", .delete "b"] (.start { engine := () } none)
  have hresult : run.result = .error (.bulk (.chunkFailed 0 ["b"] "status 429")) := by
    rw [← hrun.result_eq, hactions]
    decide +kernel
  obtain ⟨earlier, last, -, -, hknown⟩ :=
    hfollows.of_failed (hrun.echoes (echoesActions_busyFor "b")) _ _ _ hresult
  obtain ⟨request, hrequest, -, hacknowledges⟩ :=
    hknown (.delete "a") (hactions ▸ List.mem_cons_self) (by decide +kernel)
  exact ⟨run, hrun, hfollows, hresult, request, hrequest, hacknowledges⟩

end Repository

end SearchStore
