import SearchStore.Proofs.Bulk.Sending
import SearchStore.Proofs.Engine.Documents
import Std.Data.HashSet.Lemmas

/-!
The last write wins. A load that succeeds leaves under every id the last document
with that id, although the engine may refuse writes one by one, refuse requests,
lose requests, and lose answers after part of a request was done. While a chunk
is being sent, the writes still to be sent are all the writes of the chunk under
some of its ids, and every other document is what the whole chunk makes of it.
-/

namespace SearchStore

open Writes

variable {σ δ : Type}

def failedWrites (writes : Writes) (response : BulkResponse) : Writes :=
  writes.filter fun write => write.1 ∈ response.failedItems.map (·.id)

theorem mem_failedWrites {writes : Writes} {response : BulkResponse} {write : String × Json} :
    write ∈ failedWrites writes response ↔
      write ∈ writes ∧ write.1 ∈ response.failedItems.map (·.id) := by
  rw [failedWrites, List.mem_filter, decide_eq_true_eq]

/-- Under an id all writes have failed or none. -/
theorem under_failedWrites (writes : Writes) (response : BulkResponse) (id : String) :
    (failedWrites writes response).under id =
      if id ∈ response.failedItems.map (·.id) then writes.under id else [] := by
  unfold failedWrites under
  rw [List.filter_filter]
  split
  · next hfailed =>
    apply List.filter_congr
    intro write _
    by_cases hid : write.1 = id
    · subst hid
      simpa using hfailed
    · simp [hid]
  · next hfailed =>
    apply List.filter_eq_nil_iff.mpr
    intro write _
    by_cases hid : write.1 = id
    · subst hid
      simpa using hfailed
    · simp [hid]

/-- An item that did not fail and does not stand for an absent document was
accepted. -/
theorem isSuccessStatus_of_not_failed {response : BulkResponse} {item : BulkItem}
    (hitem : item ∈ response.items) (habsent : item.isAbsent = false)
    (h : item.id ∉ response.failedItems.map (·.id)) : isSuccessStatus item.status = true := by
  cases hstatus : isSuccessStatus item.status with
  | true => rfl
  | false =>
    have hfailed : item ∈ response.failedItems := by
      simp [BulkResponse.failedItems, hitem, BulkItem.isSuccess, hstatus, habsent]
    exact absurd (List.mem_map_of_mem hfailed) h

/-- How far a chunk is, by what is still to be sent of it: for each id all the
writes or none, and where there are none the documents are as the whole chunk
leaves them. -/
structure ChunkProgress (index : String) (writes : Writes) (before : Documents)
    (pending : Writes) (now : Documents) : Prop where
  under_eq : ∀ id, pending.under id = writes.under id ∨ pending.under id = []
  settled : ∀ ref, (∀ write ∈ pending, ref ≠ .of index write.1) →
    now ref = writes.store index before ref

namespace ChunkProgress

variable {index : String} {writes pending : Writes} {before now : Documents}

theorem start (index : String) (writes : Writes) (before : Documents) :
    ChunkProgress index writes before writes before where
  under_eq _ := .inl rfl
  settled ref h := (store_of_ne writes before ref h).symm

/-- A request that was made in part changes nothing that is settled. -/
theorem partly (h : ChunkProgress index writes before pending now) {made : Writes}
    (hmade : made.Sublist pending) :
    ChunkProgress index writes before pending (made.store index now) where
  under_eq := h.under_eq
  settled ref hnot := by
    rw [store_of_ne made now ref fun write hwrite => hnot write (hmade.subset hwrite)]
    exact h.settled ref hnot

/-- Writes whose id no failed item shares are settled by an answered request. -/
theorem answered (h : ChunkProgress index writes before pending now) {response : BulkResponse}
    (hids : response.items.map (·.id) = pending.map Prod.fst)
    (habsent : ∀ item ∈ response.items, item.isAbsent = false) :
    ChunkProgress index writes before (failedWrites pending response)
      ((acceptedWrites pending response.items).store index now) where
  under_eq id := by
    rw [under_failedWrites]
    split
    · exact h.under_eq id
    · exact .inr rfl
  settled ref hnot := by
    by_cases hpending : ∃ write ∈ pending, ref = .of index write.1
    · obtain ⟨write, hwrite, rfl⟩ := hpending
      -- No write under this id is sent again, so none under it was refused; and as
      -- one is still pending, all writes of the chunk under it were in this request.
      have hunfailed : write.1 ∉ response.failedItems.map (·.id) :=
        fun hfailed => hnot write (mem_failedWrites.mpr ⟨hwrite, hfailed⟩) rfl
      have haccepted : (acceptedWrites pending response.items).under write.1 =
          pending.under write.1 := by
        apply under_acceptedWrites hids
        intro item hitem hid
        exact isSuccessStatus_of_not_failed hitem (habsent item hitem) (by rwa [hid])
      have hmem : write ∈ pending.under write.1 := by simp [under, hwrite]
      have hwhole : pending.under write.1 = writes.under write.1 :=
        (h.under_eq write.1).resolve_right (List.ne_nil_of_mem hmem)
      have hlast : writes.last? write.1 ≠ none := by
        rw [← last?_congr hwhole, Ne, last?_eq_none_iff]
        exact fun hnone => hnone write hwrite rfl
      rw [store_of, store_of, last?_congr (haccepted.trans hwhole)]
      cases hfound : writes.last? write.1 with
      | none => exact absurd hfound hlast
      | some content => rfl
    · have hother : ∀ write ∈ pending, ref ≠ .of index write.1 :=
        fun write hwrite heq => hpending ⟨write, hwrite, heq⟩
      rw [store_of_ne _ now ref fun write hwrite =>
        hother write ((acceptedWrites_sublist pending response.items).subset hwrite)]
      exact h.settled ref hother

/-- When no item failed, the documents are as the whole chunk leaves them. -/
theorem documents_eq (h : ChunkProgress index writes before [] now) :
    now = writes.store index before :=
  funext fun ref => h.settled ref (by simp)

end ChunkProgress

section Writing

variable [Document δ]

def writesOf (list : List δ) (contents : List Json) : Writes :=
  List.zipWith (fun document content => (Document.id document, content)) list contents

theorem actions_writesOf (list : List δ) (contents : List Json) :
    List.zipWith (fun document => BulkAction.index (Document.id document)) list contents =
      (writesOf list contents).actions := by
  simp [writesOf, Writes.actions, List.map_zipWith]

theorem exists_of_mem_writesOf {list : List δ} {contents : List Json} {write : String × Json}
    (h : write ∈ writesOf list contents) :
    ∃ document ∈ list, write.1 = Document.id document := by
  induction list generalizing contents with
  | nil => simp [writesOf] at h
  | cons document rest ih =>
    cases contents with
    | nil => simp [writesOf] at h
    | cons content others =>
      simp only [writesOf, List.zipWith_cons_cons, List.mem_cons] at h
      rcases h with rfl | hrest
      · exact ⟨document, List.mem_cons_self, rfl⟩
      · obtain ⟨found, hfound, hid⟩ := ih hrest
        exact ⟨found, List.mem_cons_of_mem _ hfound, hid⟩

/-- The last write under an id is that of the last document with the id. -/
theorem last?_writesOf {list earlier later : List δ} {document : δ} {contents : List Json}
    (hencoded : list.map Document.encode = contents.map Except.ok)
    (hsplit : list = earlier ++ document :: later)
    (hlast : ∀ other ∈ later, Document.id other ≠ Document.id document) :
    ∃ content, Document.encode document = .ok content ∧
      (writesOf list contents).last? (Document.id document) = some content := by
  subst hsplit
  rw [List.map_append, List.map_cons] at hencoded
  obtain ⟨before, after, rfl, hbefore, hafter⟩ := List.append_eq_map_iff.mp hencoded
  obtain ⟨content, others, rfl, hcontent, -⟩ := List.map_eq_cons_iff.mp hafter
  have hlength : earlier.length = before.length := by
    simpa using congrArg List.length hbefore.symm
  refine ⟨content, hcontent.symm, ?_⟩
  have hwrites : writesOf (earlier ++ document :: later) (before ++ content :: others) =
      writesOf earlier before ++ (Document.id document, content) :: writesOf later others := by
    simp [writesOf, List.zipWith_append hlength]
  rw [hwrites]
  apply last?_of_split
  intro write hwrite
  obtain ⟨other, hother, hid⟩ := exists_of_mem_writesOf hwrite
  rw [hid]
  exact hlast other hother

end Writing

namespace Repository

open SearchStore.Repository.Action

/-- Sent again are the writes under the ids of the items that failed. -/
theorem actionsToResend_actions (writes : Writes) (response : BulkResponse) :
    actionsToResend writes.actions response.failedItems =
      (failedWrites writes response).actions := by
  unfold actionsToResend failedWrites Writes.actions
  rw [List.filter_map]
  congr 1
  apply List.filter_congr
  intro write _
  simp [Std.HashSet.contains_ofList, BulkAction.id]

section Chunk

variable {repo : Repository σ} {documents : σ → Documents} {writes : Writes}

section Request

variable {before : Documents} {pending : Writes} {state : σ}

/-- A request for what is left of a chunk, answered with status 200. -/
theorem chunkProgress_answered (hstores : repo.engine.StoresAccepted documents)
    (h : ChunkProgress repo.index writes before pending (documents state))
    {response : BulkResponse}
    (hresponse : repo.engine.answer (.bulk repo.index pending.actions) state = .ok response)
    (hstatus : response.status = 200) :
    ChunkProgress repo.index writes before (failedWrites pending response)
      (documents (repo.engine.respond (.bulk repo.index pending.actions) state).2) := by
  obtain ⟨hids, habsent, hstored⟩ :=
    hstores.answered repo.index pending state response hresponse hstatus
  rw [hstored]
  exact h.answered hids habsent

/-- When the chunk has not failed with a request, all its writes are made. -/
theorem documents_of_chunkFailure?_eq_none (hstores : repo.engine.StoresAccepted documents)
    (h : ChunkProgress repo.index writes before pending (documents state)) (chunk : Nat)
    (hunfailed : chunkFailure? chunk pending.actions
      (repo.engine.answer (.bulk repo.index pending.actions) state) = none) :
    documents (repo.engine.respond (.bulk repo.index pending.actions) state).2 =
      writes.store repo.index before := by
  obtain ⟨response, hresponse, hstatus, hempty⟩ := (chunkFailure?_eq_none_iff _ _ _).mp hunfailed
  have hprogress := chunkProgress_answered hstores h hresponse hstatus
  have hnone : failedWrites pending response = [] := by simp [failedWrites, hempty]
  rw [hnone] at hprogress
  exact hprogress.documents_eq

/-- After any request, answered well or not, there is progress by what is left. -/
theorem chunkProgress_left (hstores : repo.engine.StoresAccepted documents)
    (h : ChunkProgress repo.index writes before pending (documents state)) :
    ∃ left : Writes,
      leftToSend pending.actions
        (repo.engine.answer (.bulk repo.index pending.actions) state) = left.actions ∧
      ChunkProgress repo.index writes before left
        (documents (repo.engine.respond (.bulk repo.index pending.actions) state).2) := by
  by_cases hanswered : ∃ response, repo.engine.answer (.bulk repo.index pending.actions) state =
      .ok response ∧ response.status = 200
  · obtain ⟨response, hresponse, hstatus⟩ := hanswered
    have hprogress := chunkProgress_answered hstores h hresponse hstatus
    by_cases hfailed : response.failedItems = []
    · have hdone := documents_of_chunkFailure?_eq_none hstores h 0
        ((chunkFailure?_eq_none_iff _ _ _).mpr ⟨response, hresponse, hstatus, hfailed⟩)
      refine ⟨pending, by simp [leftToSend, hresponse, hfailed], h.under_eq, ?_⟩
      intro ref _
      rw [hdone]
    · refine ⟨failedWrites pending response, ?_, hprogress⟩
      simp only [leftToSend, hresponse, hstatus, ne_eq, hfailed, not_false_eq_true, and_self,
        if_true]
      exact actionsToResend_actions pending response
  · obtain ⟨made, hmade, hstored⟩ := hstores.otherwise repo.index pending state
      fun response hresponse hstatus => hanswered ⟨response, hresponse, hstatus⟩
    refine ⟨pending, ?_, ?_⟩
    · cases hanswer : repo.engine.answer (.bulk repo.index pending.actions) state with
      | error error => rfl
      | ok response =>
        have hstatus : response.status ≠ 200 := fun h200 => hanswered ⟨response, hanswer, h200⟩
        simp [leftToSend, hstatus]
    · rw [hstored]
      exact h.partly hmade

end Request

/-- The progress of a chunk over its failed attempts. -/
theorem chunkProgress_attempts (hstores : repo.engine.StoresAccepted documents) {chunk : Nat}
    {initial state : EngineState σ × List BulkAction}
    {visited : List (EngineState σ × List BulkAction)} (hinitial : initial.2 = writes.actions)
    (h : repo.retry.Attempts repo.shouldRetry (fun _ now => repo.attemptChunk chunk now)
      initial visited state) :
    ∃ pending : Writes, state.2 = pending.actions ∧
      ChunkProgress repo.index writes (documents initial.1.engine) pending
        (documents state.1.engine) := by
  induction h with
  | start => exact ⟨writes, hinitial, .start _ _ _⟩
  | @retried visited state delay now hvisited hdelay ih =>
    obtain ⟨engineState, actions⟩ := state
    obtain ⟨pending, rfl, hprogress⟩ := ih
    obtain ⟨left, hleft, hnext⟩ := chunkProgress_left hstores hprogress
    rw [attemptChunk_state]
    exact ⟨left, hleft, hnext⟩

/-- A chunk that did not fail leaves the documents as if its writes had been made
one after the other. -/
theorem documents_sendChunk (hstores : repo.engine.StoresAccepted documents) (chunk : Nat)
    (session : Session (EngineState σ))
    (h : failureOf chunk (repo.sendChunk chunk writes.actions session).1 = none) :
    documents (repo.sendChunk chunk writes.actions session).2.state.engine =
      writes.store repo.index (documents session.state.engine) := by
  rcases completed_sendChunk repo chunk writes.actions session with
    ⟨hcancelled, -⟩ | ⟨visited, ⟨engineState, actions⟩, now, hattempts, -, hresult, hstate⟩
  · simp [hcancelled, failureOf] at h
  · obtain ⟨pending, rfl, hprogress⟩ := chunkProgress_attempts hstores rfl hattempts
    rw [hresult, failureOf_chunkResult] at h
    rw [hstate]
    exact documents_of_chunkFailure?_eq_none hstores hprogress chunk h

theorem documents_setRefreshInterval (hstores : repo.engine.StoresAccepted documents)
    (interval : RefreshInterval) (session : Session (EngineState σ)) :
    documents (repo.setRefreshInterval repo.index interval session).2.state.engine =
      documents session.state.engine := by
  apply repo.call_keeps _ (fun state => documents state = documents session.state.engine) ?_ _ rfl
  intro state hkept
  rw [hstores.settings, hkept]

/-- Chunks of which none failed leave the documents as if all their writes had
been made one after the other. -/
theorem documents_sendChunks (hstores : repo.engine.StoresAccepted documents) (chunk : Nat)
    (pieces : List Writes) (session : Session (EngineState σ))
    (h : (repo.sendChunks chunk (pieces.map Writes.actions) session).1 = .ok []) :
    documents (repo.sendChunks chunk (pieces.map Writes.actions) session).2.state.engine =
      Writes.store repo.index pieces.flatten (documents session.state.engine) := by
  induction pieces generalizing chunk session with
  | nil =>
    rw [List.map_nil, run_sendChunks_nil]
    rfl
  | cons piece rest ih =>
    rw [List.map_cons] at h ⊢
    rcases sendChunks_cons repo chunk piece.actions (rest.map Writes.actions) session with
      ⟨hcancelled, -⟩ | ⟨-, hrun⟩
    · simp [hcancelled] at h
    · rw [hrun] at h ⊢
      obtain ⟨failures, final, hrest, hpure⟩ := exists_of_run_bind_eq_ok (Prod.ext h rfl)
      rw [run_pure, Prod.mk.injEq, Except.ok.injEq, List.append_eq_nil_iff,
        Option.toList_eq_nil_iff] at hpure
      obtain ⟨⟨hhere, rfl⟩, -⟩ := hpure
      have hdone := ih (chunk + 1) _ (by rw [hrest])
      -- The entries are empty for this chunk and for the rest, so both made their writes.
      rw [hrest, documents_sendChunk hstores chunk session hhere] at hdone
      rw [run_bind_ok hrest, run_pure, List.flatten_cons, store_append]
      exact hdone

/-- A load that succeeds leaves the documents as if its writes had been made one
after the other. -/
theorem documents_bulkWrite (hstores : repo.engine.StoresAccepted documents) (writes : Writes)
    (session : Session (EngineState σ)) (h : (repo.bulkWrite writes.actions session).1 = .ok ()) :
    documents (repo.bulkWrite writes.actions session).2.state.engine =
      writes.store repo.index (documents session.state.engine) := by
  by_cases hempty : writes = []
  · subst hempty
    rfl
  · have hactions : writes.actions ≠ [] := by simpa [Writes.actions] using hempty
    have hchunks : chunks repo.options.bulkChunkSize writes.actions =
        (chunks repo.options.bulkChunkSize writes).map Writes.actions := chunks_map _ _
    rw [bulkWrite_eq repo hactions, hchunks] at h ⊢
    obtain ⟨_, disabled, hdisable, hload⟩ := exists_of_run_bind_eq_ok (Prod.ext h rfl)
    obtain ⟨failures, sent, hsend, hend⟩ := exists_of_run_bind_eq_ok hload
    obtain ⟨rfl, -⟩ := (loadResult_eq_ok_iff _ _).mp (congrArg Prod.fst hend)
    have hbefore := documents_setRefreshInterval hstores .disabled session
    rw [hdisable] at hbefore
    have hwritten := documents_sendChunks hstores 0 _ disabled (by rw [hsend])
    rw [hsend, flatten_chunks, hbefore] at hwritten
    have hafter := documents_setRefreshInterval hstores repo.restoredInterval sent
    rw [run_bind_ok hdisable, run_bind_ok hsend]
    exact hafter.trans hwritten

end Chunk

/-- The answer to the first request is lost after one write. -/
def loseFirst (number : Nat) : Reception :=
  if number = 0 then .lost 1 else .judged fun _ => 201

def losingFirst : Repository (Documents × Nat) where
  options := { index := "orders", bulkChunkSize := 2 }
  schema := ⟨"Order", []⟩
  retry := .ofAttempts 3
  engine := .planned loseFirst

def repeated : List Entry :=
  [⟨"a", .ok (.str "first")⟩, ⟨"b", .ok (.str "second")⟩, ⟨"a", .ok (.str "third")⟩]

def emptySession : Session (EngineState (Documents × Nat)) :=
  .start { engine := (fun _ => none, 0) } none

/-- An insertion that succeeds leaves under every id the last document with that
id, and no other document has changed, whatever the engine refused or lost. -/
theorem bulkInsert_last_write_wins [Document δ] (repo : Repository σ) (documents : σ → Documents)
    (hstores : repo.engine.StoresAccepted documents) (list : List δ)
    (session : Session (EngineState σ)) (hok : (repo.bulkInsert list session).1 = .ok ()) :
    (∀ earlier document later, list = earlier ++ document :: later →
      (∀ other ∈ later, Document.id other ≠ Document.id document) →
      ∃ content, Document.encode document = .ok content ∧
        documents (repo.bulkInsert list session).2.state.engine
          (repo.ref (Document.id document)) = some content) ∧
    ∀ ref, (∀ document ∈ list, ref ≠ repo.ref (Document.id document)) →
      documents (repo.bulkInsert list session).2.state.engine ref =
        documents session.state.engine ref := by
  rw [bulkInsert_eq] at hok ⊢
  rcases run_load repo (fun document => BulkAction.index (Document.id document)) list session with
    ⟨_, _, _, _, hfailed⟩ | ⟨contents, hencoded, hrun⟩
  · simp [hfailed] at hok
  · have hwrites : List.zipWith (fun document => BulkAction.index (Document.id document)) list
        contents = (writesOf list contents).actions := actions_writesOf list contents
    rw [hrun, hwrites] at hok ⊢
    rw [documents_bulkWrite hstores _ session hok]
    constructor
    · intro earlier document later hsplit hlast
      obtain ⟨content, hcontent, hstored⟩ := last?_writesOf hencoded hsplit hlast
      refine ⟨content, hcontent, ?_⟩
      exact (store_of _ _ _).trans (by rw [hstored, Option.some_or])
    · intro ref hother
      apply store_of_ne
      intro write hwrite
      obtain ⟨document, hmem, hid⟩ := exists_of_mem_writesOf hwrite
      rw [hid]
      exact hother document hmem

/-- The first request is made again whole, and the id that was written twice by
then comes again in the second chunk. -/
theorem bulkInsert_last_write_wins_lost_answer :
    (losingFirst.bulkInsert repeated emptySession).1 = .ok () ∧
      (losingFirst.bulkInsert repeated emptySession).2.state.engine.1 (losingFirst.ref "a") =
        some (.str "third") ∧
      (losingFirst.bulkInsert repeated emptySession).2.state.engine.1 (losingFirst.ref "c") =
        none := by
  have hok : (losingFirst.bulkInsert repeated emptySession).1 = .ok () := by decide +kernel
  obtain ⟨hlast, hother⟩ := bulkInsert_last_write_wins losingFirst Prod.fst
    (Engine.storesAccepted_planned loseFirst) repeated emptySession hok
  obtain ⟨content, hcontent, hstored⟩ := hlast (repeated.take 2) ⟨"a", .ok (.str "third")⟩ [] rfl
    (by simp)
  obtain rfl : Json.str "third" = content := Except.ok.inj hcontent
  exact ⟨hok, hstored, hother (losingFirst.ref "c") (by decide)⟩

end Repository

end SearchStore
