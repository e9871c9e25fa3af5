import SearchStore.Proofs.Engine.Removals
import SearchStore.Proofs.Repository.Masking

/-!
Deletions in bulk over a connection on which requests and answers get lost. The same
request is made until it is answered, and what comes of the deletion is what this answer
says. A request that is made again may come upon documents which an earlier one, of which
the answer got lost, has deleted already. The engine tells of them that they are absent,
and this is no failure.
-/

namespace SearchStore.Repository

open SearchStore.Repository.Action

variable {σ : Type}

def rejections (items : List BulkItem) : List String :=
  (items.filter (·.isRejected)).map fun item => item.id ++ ": " ++ item.reason.getD "rejected"

structure BulkDeleted (repo : Repository σ) (documents : σ → Documents) (ids : List String)
    (session : Session (EngineState σ)) (answers : List (Except EngineError BulkResponse))
    (run : Except RepositoryError Unit × Session (EngineState σ)) : Prop where
  exchanged : session.state.Exchanged repo.engine
    (answers.map (⟨.bulk repo.index (ids.map .delete), ·⟩)) run.2.state
  length_le : answers.length ≤ repo.retry.maxAttempts
  /-- No request follows one that is answered. -/
  lost_before_last : ∀ answer ∈ answers.dropLast, ∃ reason, answer = .error (.transport reason)
  cancelled_only : run.1 = .error .cancelled → run.2.isCancelled = true
  ok_iff : run.1 ≠ .error .cancelled → (run.1 = .ok () ↔ ∃ response, .ok response ∈ answers ∧
    isSuccessStatus response.status = true ∧ ∀ item ∈ response.items, item.isRejected = false)
  absent : run.1 = .ok () → ∀ id ∈ ids, documents run.2.state.engine (repo.ref id) = none
  /-- The error lists what was rejected, in the order of the request. -/
  rejected : run.1 ≠ .error .cancelled → ∀ response, .ok response ∈ answers →
    isSuccessStatus response.status = true → (∃ item ∈ response.items, item.isRejected = true) →
      response.items.map (·.id) = ids ∧
        run.1 = .error (.bulk (.aggregate (rejections response.items)))
  /-- If fewer requests get lost than attempts are allowed, one is answered. -/
  outlasts : repo.retry.IsMeasurable → run.1 ≠ .error .cancelled →
    answers.countP (!·.isOk) < repo.retry.maxAttempts → ∃ response, .ok response ∈ answers
  valid : repo.retry.IsMeasurable ∨ (∃ response, .ok response ∈ answers) →
    run.2.overflowed = session.overflowed

def deletionResult (response : BulkResponse) : Except RepositoryError Unit :=
  if isSuccessStatus response.status = false then
    .error (.engine (.response response.status (response.reason.getD "")))
  else if response.failedItems = [] then .ok ()
  else .error (.bulk (.aggregate (response.failedItems.map fun item =>
    item.id ++ ": " ++ item.reason.getD "rejected")))

theorem bulkDelete_run (repo : Repository σ) {ids : List String} (hne : ids ≠ [])
    (session : Session (EngineState σ)) :
    repo.bulkDelete ids session =
      ((repo.call (.bulk repo.index (ids.map .delete)) session).1 >>= deletionResult,
        (repo.call (.bulk repo.index (ids.map .delete)) session).2) := by
  have hnonempty : ids.isEmpty = false := by simpa using hne
  unfold bulkDelete
  rw [hnonempty]
  cases hcall : repo.call (.bulk repo.index (ids.map .delete)) session with
  | mk result later =>
    cases result with
    | error error => exact run_bind_error hcall
    | ok response =>
      refine (run_bind_ok hcall).trans ?_
      change _ = (deletionResult response, later)
      unfold deletionResult
      cases isSuccessStatus response.status with
      | false => rfl
      | true => cases response.failedItems <;> rfl

theorem deletionResult_ne_cancelled (response : BulkResponse) :
    deletionResult response ≠ .error .cancelled := by
  unfold deletionResult
  split
  · simp
  · split <;> simp

section Answered

variable {response : BulkResponse} (hstatus : isSuccessStatus response.status = true)
  (hitems : response.failedItems = response.items.filter (·.isRejected))
include hstatus hitems

theorem deletionResult_eq_ok_iff :
    deletionResult response = .ok () ↔ ∀ item ∈ response.items, item.isRejected = false := by
  have hnil : response.items.filter (·.isRejected) = [] ↔
      ∀ item ∈ response.items, item.isRejected = false := by
    simp [List.filter_eq_nil_iff]
  unfold deletionResult
  rw [hstatus, hitems, if_neg Bool.noConfusion, ← hnil]
  split
  · next hnone => exact ⟨fun _ => hnone, fun _ => rfl⟩
  · next hsome => exact ⟨nofun, fun hnone => absurd hnone hsome⟩

theorem deletionResult_of_rejected (h : ∃ item ∈ response.items, item.isRejected = true) :
    deletionResult response = .error (.bulk (.aggregate (rejections response.items))) := by
  have hsome : response.items.filter (·.isRejected) ≠ [] := by
    simpa [List.filter_eq_nil_iff] using h
  unfold deletionResult
  rw [hstatus, hitems, if_neg Bool.noConfusion, if_neg hsome]
  rfl

end Answered

theorem bind_deletionResult_eq_ok_iff {result : Except RepositoryError BulkResponse}
    (hitems : ∀ response, result = .ok response → isSuccessStatus response.status = true →
      response.failedItems = response.items.filter (·.isRejected)) :
    (result >>= deletionResult) = .ok () ↔ ∃ response, result = .ok response ∧
      isSuccessStatus response.status = true ∧
        ∀ item ∈ response.items, item.isRejected = false := by
  cases result with
  | error error => exact ⟨nofun, fun ⟨_, hanswer, _⟩ => nomatch hanswer⟩
  | ok response =>
    cases hstatus : isSuccessStatus response.status with
    | false =>
      have hrefused : deletionResult response ≠ .ok () := by simp [deletionResult, hstatus]
      refine ⟨fun h => absurd h hrefused, ?_⟩
      rintro ⟨_, ⟨⟩, hsuccess, -⟩
      cases hstatus.symm.trans hsuccess
    | true =>
      have hiff := deletionResult_eq_ok_iff hstatus (hitems response rfl hstatus)
      refine ⟨fun h => ⟨response, rfl, hstatus, hiff.mp h⟩, ?_⟩
      rintro ⟨_, ⟨⟩, -, haccepted⟩
      exact hiff.mpr haccepted

/-- The requests of a deletion in bulk are made until one is answered, and what comes of it
is what this answer says. -/
theorem bulkDelete_decided_by_answer (repo : Repository σ) (documents : σ → Documents)
    (hengine : repo.engine.RemovesInBulk documents repo.index) (ids : List String)
    (hne : ids ≠ []) (session : Session (EngineState σ)) :
    ∃ answers, repo.BulkDeleted documents ids session answers (repo.bulkDelete ids session) := by
  let request : Engine.Call := .bulk repo.index (ids.map .delete)
  obtain ⟨answers, hrun⟩ := repo.exists_callRun request session
  have hlost (error : EngineError) (hmem : .error error ∈ answers) :
      ∃ reason, error = .transport reason := by
    have hexchange : (⟨request, .error error⟩ : Exchange) ∈ answers.map (⟨request, ·⟩) :=
      List.mem_map_of_mem hmem
    obtain ⟨state, hanswer⟩ := hrun.exchanged.states.exists_answer hexchange
    exact hengine.lost ids state error hanswer.symm
  have hremovals (response : BulkResponse)
      (hanswer : (repo.call request session).1 = .ok response)
      (hstatus : isSuccessStatus response.status = true) :
      ∃ before, Removals (ids.map (.of repo.index)) before response.items
        (documents (repo.call request session).2.state.engine) := by
    rw [hanswer] at hrun
    obtain ⟨state, hstate, hafter⟩ := hrun.exists_answer_of_ok
    rw [hafter]
    exact ⟨_, hengine.answered ids state response hstate hstatus⟩
  have hended (h : ((repo.call request session).1 >>= deletionResult) ≠ .error .cancelled) :
      (repo.call request session).1 ≠ .error .cancelled := by
    intro hcancelled
    rw [hcancelled] at h
    exact h rfl
  have hok := bind_deletionResult_eq_ok_iff fun response hanswer hstatus =>
    (hremovals response hanswer hstatus).choose_spec.filter_not_isSuccess
  rw [repo.bulkDelete_run hne]
  exact ⟨answers, {
    exchanged := hrun.exchanged
    length_le := hrun.length_le
    lost_before_last := by
      intro answer hanswer
      obtain ⟨error, rfl⟩ := hrun.exists_error_of_mem_dropLast answer hanswer
      obtain ⟨reason, rfl⟩ := hlost error (List.dropLast_subset _ hanswer)
      exact ⟨reason, rfl⟩
    cancelled_only := by
      intro hcancelled
      apply repo.isCancelled_of_call_eq
      cases hresult : (repo.call request session).1 with
      | ok response =>
        rw [hresult] at hcancelled
        exact absurd hcancelled (deletionResult_ne_cancelled response)
      | error error =>
        rw [hresult] at hcancelled
        rw [Except.error.inj hcancelled]
    ok_iff := by
      intro hresult
      rw [hok]
      exact exists_congr fun response =>
        and_congr_left fun _ => (hrun.ok_mem_iff (hended hresult)).symm
    absent := by
      intro hresult id hid
      obtain ⟨response, hanswer, hstatus, haccepted⟩ := hok.mp hresult
      obtain ⟨before, hremoved⟩ := hremovals response hanswer hstatus
      exact hremoved.absent haccepted _ (List.mem_map_of_mem hid)
    rejected := by
      intro hresult response hmem hstatus hsome
      have hanswer := (hrun.ok_mem_iff (hended hresult)).mp hmem
      obtain ⟨before, hremoved⟩ := hremovals response hanswer hstatus
      refine ⟨?_, ?_⟩
      · rw [hremoved.map_id, List.map_map]
        exact List.map_id' _
      · rw [hanswer]
        exact deletionResult_of_rejected hstatus hremoved.filter_not_isSuccess hsome
    outlasts := by
      intro hmeasurable hresult hfew
      refine hrun.exists_ok_of_few_failed (hended hresult) hmeasurable (fun error hmem => ?_) hfew
      obtain ⟨reason, rfl⟩ := hlost error hmem
      exact repo.shouldRetry_transport reason
    valid := by
      rintro (hmeasurable | ⟨response, hmem⟩)
      · exact keepsMeasured_call hmeasurable request session
      · refine (repo.overflowed_call_or request session).resolve_right ?_
        rintro ⟨error, herror⟩
        have hanswer := (hrun.ok_mem_iff (by rw [herror]; simp)).mp hmem
        rw [hanswer] at herror
        cases herror }⟩

def removing (attempts delayUnit : Nat) : Repository (Documents × List RequestFate) where
  options := { index := "orders" }
  schema := ⟨"Order", []⟩
  retry := .ofAttempts attempts delayUnit
  engine := .removing

/-- Two orders, and what becomes of the next requests, until the session is cancelled. -/
def twoOrders (fates : List RequestFate) (cancelAfter : Option Nat := none) :
    Session (EngineState (Documents × List RequestFate)) :=
  .start { engine := (fun ref => if ref.id = "a" ∨ ref.id = "b" then some (.str ref.id) else none,
    fates) } cancelAfter

/-- The first request deletes one of the orders, but the answer gets lost. The second one
gets lost. The third one is told that this order is absent. -/
theorem bulkDelete_decided_by_answer_twoOrders :
    let run := (removing 3 1000).bulkDelete ["a", "b", "a"]
      (twoOrders [.answerLost ["b"], .requestLost])
    run.1 = .ok () ∧ run.2.state.calls.length = 3 ∧
      run.2.state.engine.1 ((removing 3 1000).ref "a") = none ∧
      run.2.state.engine.1 ((removing 3 1000).ref "b") = none := by
  intro run
  obtain ⟨answers, hdeleted⟩ := bulkDelete_decided_by_answer (removing 3 1000) Prod.fst
    (Engine.removesInBulk_removing "orders") ["a", "b", "a"] (List.cons_ne_nil _ _)
    (twoOrders [.answerLost ["b"], .requestLost])
  have hok : run.1 = .ok () := by decide +kernel
  have habsent := hdeleted.absent hok
  exact ⟨hok, by decide +kernel, habsent "a" (by simp), habsent "b" (by simp)⟩

/-- What is rejected is reported and not asked for again. -/
example : ((removing 3 1000).bulkDelete ["a", "b"]
    (twoOrders [.requestLost, .answered ["b"]])).1 =
      .error (.bulk (.aggregate ["b: too many requests"])) := by
  decide +kernel

/-- Fewer requests get lost than attempts are allowed, but the deletion does not come to its
answer: the wait for the last attempt cannot be measured, or the call is cancelled while the
answer, that nothing was rejected, is on its way. -/
theorem not_bulkDelete_outlasts :
    let lost := List.replicate 1001 RequestFate.requestLost
    let unmeasurable := removing 1002 (Nat.pow 2 64 - 1)
    let void := unmeasurable.bulkDelete ["a"] (twoOrders lost)
    let cut := (removing 3 1000).bulkDelete ["a"] (twoOrders [.answered []] (some 5))
    Engine.removing.RemovesInBulk Prod.fst "orders" ∧
      (lost.length < unmeasurable.retry.maxAttempts ∧ void.2.isCancelled = false ∧
        void.2.overflowed = true ∧ void.1 ≠ .ok ()) ∧
      cut.1 = .error .cancelled ∧ cut.2.state.calls.length = 1 ∧
        cut.2.state.engine.1 ((removing 3 1000).ref "a") = none := by
  intro lost unmeasurable void cut
  refine ⟨Engine.removesInBulk_removing "orders", ⟨?_, ?_⟩, ?_, ?_, ?_⟩
  · decide +kernel
  · decide +kernel
  · decide +kernel
  · decide +kernel
  · decide +kernel

end SearchStore.Repository
