import SearchStore.Proofs.Repository.Action

/-!
The steps of a load. It is cut into pieces in which nothing is lost or moved; the
pieces are sent one after the other, each leaving an entry if it failed; and the
end is decided by these entries and by how the refresh was switched on again.
-/

namespace SearchStore

/-- Options that are in order allow for chunks of one document at least. -/
theorem RepositoryOptions.bulkChunkSize_pos {options : RepositoryOptions}
    (h : options.validate = .ok ()) : 0 < options.bulkChunkSize := by
  apply Nat.pos_of_ne_zero
  intro hsize
  unfold validate at h
  rw [hsize] at h
  by_cases hblank : Text.isBlank options.index = true
  · simp [hblank, throw, throwThe, MonadExceptOf.throw, bind, Except.bind] at h
  · by_cases hupper : options.index.toList.any Char.isUpper = true
    · simp [hblank, hupper, throw, throwThe, MonadExceptOf.throw, bind, Except.bind] at h
    · simp [hblank, hupper, throw, throwThe, MonadExceptOf.throw, bind, Except.bind] at h

/-- A document that is its id and its content, or the reason that it cannot be
written. -/
structure Entry where
  id : String
  content : Except String Json

instance : Document Entry where
  id := Entry.id
  encode := Entry.content
  decode content := .ok ⟨"", .ok content⟩

/-- Turning documents into contents succeeds for each of them, or it fails with
the reason that one of them cannot be written. -/
theorem mapM_encodeDocument {δ β : Type} [Document δ] (action : δ → Json → β) (documents : List δ) :
    (∃ document ∈ documents, ∃ reason, Document.encode document = .error reason ∧
      (documents.mapM fun document => (encodeDocument document).map (action document)) =
        .error (.serialization reason)) ∨
    ∃ contents, documents.map Document.encode = contents.map Except.ok ∧
      (documents.mapM fun document => (encodeDocument document).map (action document)) =
        .ok (List.zipWith action documents contents) := by
  induction documents with
  | nil => exact .inr ⟨[], rfl, rfl⟩
  | cons document rest ih =>
    rw [List.mapM_cons]
    cases hencode : Document.encode document with
    | error reason =>
      refine .inl ⟨document, List.mem_cons_self, reason, hencode, ?_⟩
      rw [encodeDocument, hencode]
      rfl
    | ok content =>
      have hhere : (encodeDocument document).map (action document) =
          .ok (action document content) := by
        rw [encodeDocument, hencode]
        rfl
      rw [hhere]
      rcases ih with ⟨failing, hmem, reason, hfailing, hrest⟩ | ⟨contents, hcontents, hrest⟩
      · refine .inl ⟨failing, List.mem_cons_of_mem _ hmem, reason, hfailing, ?_⟩
        rw [hrest]
        rfl
      · refine .inr ⟨content :: contents, by simp [hencode, hcontents], ?_⟩
        rw [hrest]
        rfl

namespace Repository

open SearchStore.Repository.Action

section Pieces

variable {α : Type} {size : Nat}

theorem flatten_chunks (items : List α) : (chunks size items).flatten = items := by
  induction items using chunks.induct size with
  | case1 => simp [chunks]
  | case2 item rest ih =>
    rw [chunks, List.flatten_cons, ih, List.cons_append, List.take_append_drop]

theorem chunks_map {β : Type} (f : α → β) (items : List α) :
    chunks size (items.map f) = (chunks size items).map (List.map f) := by
  induction items using chunks.induct size with
  | case1 => simp [chunks]
  | case2 item rest ih =>
    rw [List.map_cons, chunks, chunks, List.map_cons, ← ih]
    simp [List.map_take, List.map_drop]

theorem ne_nil_of_mem_chunks {items piece : List α} (h : piece ∈ chunks size items) :
    piece ≠ [] := by
  induction items using chunks.induct size with
  | case1 => simp [chunks] at h
  | case2 item rest ih =>
    rw [chunks, List.mem_cons] at h
    rcases h with rfl | hrest
    · exact List.cons_ne_nil _ _
    · exact ih hrest

/-- No piece is empty, and none is longer than it may be. -/
theorem bounds_of_mem_chunks (hsize : 0 < size) {items piece : List α}
    (h : piece ∈ chunks size items) : piece ≠ [] ∧ piece.length ≤ size := by
  refine ⟨ne_nil_of_mem_chunks h, ?_⟩
  induction items using chunks.induct size with
  | case1 => simp [chunks] at h
  | case2 item rest ih =>
    rw [chunks, List.mem_cons] at h
    rcases h with rfl | hrest
    · simp only [List.length_cons, List.length_take]
      omega
    · exact ih hrest

end Pieces

deriving instance DecidableEq for Except

variable {σ δ : Type}

def failureOf (chunk : Nat) : Except RepositoryError (Option String) → Option String
  | .ok none => none
  | .ok (some reason) => some ("chunk " ++ toString chunk ++ ": " ++ reason)
  | .error error => some error.message

/-- How a load ends, by the failures of its chunks and what came of switching the
refresh on again. -/
def loadResult (failures : List String) :
    Except RepositoryError Unit → Except RepositoryError Unit
  | .ok () => if failures = [] then .ok () else .error (.bulk (.aggregate failures))
  | .error error =>
    if failures = [] then .error error
    else .error (.bulk (.aggregate (failures ++ ["refresh interval: " ++ error.message])))

/-- A load has succeeded exactly when no chunk failed and the refresh is on again. -/
theorem loadResult_eq_ok_iff (failures : List String) (restored : Except RepositoryError Unit) :
    loadResult failures restored = .ok () ↔ failures = [] ∧ restored = .ok () := by
  cases restored with
  | ok _ => by_cases h : failures = [] <;> simp [loadResult, h]
  | error error => by_cases h : failures = [] <;> simp [loadResult, h]

section Loads

variable (repo : Repository σ)

def restoredInterval : RefreshInterval := .ofMilliseconds repo.options.refreshIntervalMs

def endLoad (failures : List String) : Action σ Unit := fun session =>
  let (restored, later) := repo.setRefreshInterval repo.index repo.restoredInterval session
  (loadResult failures restored, later)

theorem run_endLoad (failures : List String) (session : Session (EngineState σ)) :
    repo.endLoad failures session =
      (loadResult failures
          (repo.setRefreshInterval repo.index repo.restoredInterval session).1,
        (repo.setRefreshInterval repo.index repo.restoredInterval session).2) := rfl

def load [Document δ] (action : δ → Json → BulkAction) (documents : List δ) : Action σ Unit := do
  let actions ← ofExcept (documents.mapM fun document =>
    (encodeDocument document).map (action document))
  repo.bulkWrite actions

theorem bulkInsert_eq [Document δ] (documents : List δ) :
    repo.bulkInsert documents =
      repo.load (fun document => BulkAction.index (Document.id document)) documents := rfl

theorem bulkUpdate_eq [Document δ] (documents : List δ) :
    repo.bulkUpdate documents =
      repo.load (fun document => BulkAction.update (Document.id document)) documents := rfl

/-- A load fails with the reason that a document cannot be written, before
anything is sent, or it is a load of one action for each document. -/
theorem run_load [Document δ] (action : δ → Json → BulkAction) (documents : List δ)
    (session : Session (EngineState σ)) :
    (∃ document ∈ documents, ∃ reason, Document.encode document = .error reason ∧
      repo.load action documents session = (.error (.serialization reason), session)) ∨
    ∃ contents, documents.map Document.encode = contents.map Except.ok ∧
      repo.load action documents session =
        repo.bulkWrite (List.zipWith action documents contents) session := by
  rcases mapM_encodeDocument action documents with
    ⟨document, hmem, reason, hencode, hall⟩ | ⟨contents, hencode, hall⟩
  · refine .inl ⟨document, hmem, reason, hencode, ?_⟩
    rw [load, hall]
    exact run_bind_error rfl
  · refine .inr ⟨contents, hencode, ?_⟩
    rw [load, hall]
    exact run_bind_ok rfl

theorem bulkWrite_eq {actions : List BulkAction} (h : actions ≠ []) :
    repo.bulkWrite actions = (do
      repo.setRefreshInterval repo.index .disabled
      let failures ← repo.sendChunks 0 (chunks repo.options.bulkChunkSize actions)
      repo.endLoad failures) := by
  obtain ⟨action, rest, rfl⟩ := List.exists_cons_of_ne_nil h
  simp only [bulkWrite, List.isEmpty_cons, Bool.false_eq_true, if_false]
  congr 1
  funext _
  congr 1
  funext failures session
  rw [run_bind, endLoad]
  simp only [outcome, restoredInterval]
  cases repo.setRefreshInterval repo.index (.ofMilliseconds repo.options.refreshIntervalMs)
      session with
  | mk restored later =>
    cases restored with
    | ok _ => cases failures <;> rfl
    | error error => cases failures <;> rfl

theorem run_sendChunks_nil (chunk : Nat) (session : Session (EngineState σ)) :
    repo.sendChunks chunk [] session = (.ok [], session) := by
  rw [sendChunks]
  rfl

/-- A cancellation that has fired ends the sending of chunks, before a chunk or
after it; any other end of a chunk is followed by the next one. -/
theorem run_sendChunks_cons (chunk : Nat) (actions : List BulkAction)
    (rest : List (List BulkAction)) (session : Session (EngineState σ)) :
    repo.sendChunks chunk (actions :: rest) session =
      if session.isCancelled then (.error .cancelled, session)
      else
        match repo.sendChunk chunk actions session with
        | (.error .cancelled, later) => (.error .cancelled, later)
        | (result, later) =>
          (repo.sendChunks (chunk + 1) rest >>= fun failures =>
            (pure ((failureOf chunk result).toList ++ failures) :
              Action σ (List String))) later := by
  have hget : (getThe (Session (EngineState σ)) : Action σ (Session (EngineState σ))) session =
      (.ok session, session) := rfl
  rw [sendChunks, run_bind_ok hget]
  cases session.isCancelled with
  | true =>
    simp only [if_true]
    rfl
  | false =>
    simp only [Bool.false_eq_true, if_false]
    rw [run_bind]
    simp only [outcome]
    cases repo.sendChunk chunk actions session with
    | mk result later =>
      cases result with
      | ok reason => cases reason <;> rfl
      | error error => cases error <;> rfl

def afterChunk (chunk : Nat) (rest : List (List BulkAction)) :
    Except RepositoryError (Option String) → Action σ (List String)
  | .error .cancelled => ofExcept (.error .cancelled)
  | result => do
    let failures ← repo.sendChunks (chunk + 1) rest
    return (failureOf chunk result).toList ++ failures

theorem run_sendChunks_cons_of_not_cancelled (chunk : Nat) (actions : List BulkAction)
    (rest : List (List BulkAction)) (session : Session (EngineState σ))
    (h : session.isCancelled = false) :
    repo.sendChunks chunk (actions :: rest) session =
      (outcome (repo.sendChunk chunk actions) >>= repo.afterChunk chunk rest) session := by
  rw [run_sendChunks_cons, h, run_bind]
  simp only [outcome, Bool.false_eq_true, if_false]
  cases repo.sendChunk chunk actions session with
  | mk result later =>
    cases result with
    | ok reason => rfl
    | error error => cases error <;> rfl

/-- After a chunk the load ends, or it goes on with the next one. -/
theorem snd_afterChunk (chunk : Nat) (rest : List (List BulkAction))
    (result : Except RepositoryError (Option String)) (session : Session (EngineState σ)) :
    (repo.afterChunk chunk rest result session).2 = session ∨
      (repo.afterChunk chunk rest result session).2 =
        (repo.sendChunks (chunk + 1) rest session).2 := by
  unfold afterChunk
  split
  · exact .inl rfl
  · exact .inr (snd_run_bind_pure _ _ session)

theorem endLoad_eq (failures : List String) :
    repo.endLoad failures = (do
      let restored ← outcome (repo.setRefreshInterval repo.index repo.restoredInterval)
      ofExcept (loadResult failures restored)) := by
  funext session
  rw [run_endLoad, run_bind]
  rfl

theorem keepsCancelled_sendChunks (chunk : Nat) (pieces : List (List BulkAction)) :
    KeepsCancelled (repo.sendChunks chunk pieces) := by
  intro session h
  cases pieces with
  | nil =>
    rw [run_sendChunks_nil]
    exact h
  | cons actions rest =>
    rw [run_sendChunks_cons, if_pos h]
    exact h

theorem keepsCancelled_endLoad (failures : List String) :
    KeepsCancelled (repo.endLoad failures) :=
  fun session h => repo.keepsCancelled_call _ session h

variable {repo} in
theorem keepsMeasured_sendChunks (hmeasurable : repo.retry.IsMeasurable) (chunk : Nat)
    (pieces : List (List BulkAction)) : KeepsMeasured (repo.sendChunks chunk pieces) := by
  induction pieces generalizing chunk with
  | nil => exact fun _ => rfl
  | cons actions rest ih =>
    intro session
    have hsent := keepsMeasured_sendChunk hmeasurable chunk actions session
    rw [run_sendChunks_cons]
    cases session.isCancelled with
    | true => rfl
    | false =>
      simp only [Bool.false_eq_true, if_false]
      cases hrun : repo.sendChunk chunk actions session with
      | mk result later =>
        rw [hrun] at hsent
        have hrest := ((ih (chunk + 1)).bind fun failures =>
          .pure ((failureOf chunk result).toList ++ failures)) later
        cases result with
        | ok reason => exact hrest.trans hsent
        | error error =>
          cases error with
          | cancelled => exact hsent
          | _ => exact hrest.trans hsent

variable {repo} in
theorem keepsMeasured_bulkWrite (hmeasurable : repo.retry.IsMeasurable)
    (actions : List BulkAction) : KeepsMeasured (repo.bulkWrite actions) := by
  by_cases hempty : actions = []
  · subst hempty
    exact fun _ => rfl
  · rw [bulkWrite_eq repo hempty]
    exact (keepsMeasured_call hmeasurable _).bind fun _ =>
      (keepsMeasured_sendChunks hmeasurable 0 _).bind fun _ session =>
        keepsMeasured_call hmeasurable _ session

end Loads

end Repository

end SearchStore
