import SearchStore.Proofs.Bulk.Sending

/-!
All that a load does. The refresh is switched off; if that fails nothing else is
done. Every chunk is sent, whatever came of those before it, and the refresh is
switched on again, whatever came of the chunks. The failures of chunks are
reported in order, and after them that of switching the refresh on.
-/

namespace SearchStore.Repository

open SearchStore.Repository.Action

variable {σ δ : Type}

/-- The entries of the chunks that failed, by their requests. -/
def loadFailures (chunk : Nat) (sendings : List Sending) : List String :=
  (sendings.zipIdx chunk).filterMap fun (sending, number) => sending.failure? number

theorem loadFailures_cons (chunk : Nat) (sending : Sending) (rest : List Sending) :
    loadFailures chunk (sending :: rest) =
      (sending.failure? chunk).toList ++ loadFailures (chunk + 1) rest := by
  simp only [loadFailures, List.zipIdx_cons, List.filterMap_cons]
  cases sending.failure? chunk <;> rfl

def refreshCall (repo : Repository σ) (interval : RefreshInterval) : Engine.Call :=
  .putSettings repo.index (.obj [("index", .obj [("refresh_interval", .str interval.setting)])])

def refreshExchanges (repo : Repository σ) (interval : RefreshInterval)
    (answers : List (Except EngineError Unit)) : List Exchange :=
  answers.map (⟨repo.refreshCall interval, ·⟩)

theorem length_refreshExchanges (repo : Repository σ) (interval : RefreshInterval)
    (answers : List (Except EngineError Unit)) :
    (repo.refreshExchanges interval answers).length = answers.length :=
  List.length_map _

inductive Loaded (repo : Repository σ) (actions : List BulkAction) (before : EngineState σ) :
    Except RepositoryError Unit → EngineState σ → Prop
  /-- The refresh cannot be switched off. -/
  | stopped {answers : List (Except EngineError Unit)} {error : EngineError}
      {after : EngineState σ} (htried : Tried repo.retry.maxAttempts answers (.error error))
      (hexchanged : before.Exchanged repo.engine (repo.refreshExchanges .disabled answers) after) :
      Loaded repo actions before (.error (.engine error)) after
  | completed {disabling restoring : List (Except EngineError Unit)} {sendings : List Sending}
      {restored : Except EngineError Unit} {after : EngineState σ}
      (hdisabled : Tried repo.retry.maxAttempts disabling (.ok ()))
      (hactions : (sendings.map Sending.first).flatten = actions)
      (hchunks : ∀ sending ∈ sendings,
        sending.first ≠ [] ∧ sending.first.length ≤ repo.options.bulkChunkSize)
      (hrequests : ∀ sending ∈ sendings, sending.requests.length ≤ repo.retry.maxAttempts)
      (hrestored : Tried repo.retry.maxAttempts restoring restored)
      (hexchanged : before.Exchanged repo.engine
        (repo.refreshExchanges .disabled disabling ++
          sendings.flatMap (Sending.exchanges repo.index) ++
          repo.refreshExchanges repo.restoredInterval restoring) after) :
      Loaded repo actions before
        (loadResult (loadFailures 0 sendings) (restored.mapError .engine)) after

/-- Every load makes a call. -/
theorem Loaded.length_calls_lt {repo : Repository σ} {actions : List BulkAction}
    {before after : EngineState σ} {result : Except RepositoryError Unit}
    (h : Loaded repo actions before result after) : before.calls.length < after.calls.length := by
  cases h with
  | stopped htried hexchanged =>
    rw [hexchanged.length_calls, length_refreshExchanges]
    have hpos := htried.length_pos
    omega
  | completed hdisabled hactions hchunks hrequests hrestored hexchanged =>
    rw [hexchanged.length_calls, List.length_append, List.length_append, length_refreshExchanges]
    have hpos := hdisabled.length_pos
    omega

section Loads

variable (repo : Repository σ)

theorem exchanged_setRefreshInterval (interval : RefreshInterval)
    (session : Session (EngineState σ))
    (h : (repo.setRefreshInterval repo.index interval session).2.isCancelled = false) :
    ∃ answers last, Tried repo.retry.maxAttempts answers last ∧
      (repo.setRefreshInterval repo.index interval session).1 = last.mapError .engine ∧
      session.state.Exchanged repo.engine (repo.refreshExchanges interval answers)
        (repo.setRefreshInterval repo.index interval session).2.state :=
  exchanged_call repo (repo.refreshCall interval) session h

/-- Chunks sent one after the other, each attempted whatever came of those before. -/
theorem exchanged_sendChunks (chunk : Nat) (pieces : List (List BulkAction))
    (session : Session (EngineState σ))
    (h : (repo.sendChunks chunk pieces session).2.isCancelled = false) :
    ∃ sendings : List Sending, sendings.map Sending.first = pieces ∧
      (∀ sending ∈ sendings, sending.requests.length ≤ repo.retry.maxAttempts) ∧
      (repo.sendChunks chunk pieces session).1 = .ok (loadFailures chunk sendings) ∧
      session.state.Exchanged repo.engine (sendings.flatMap (Sending.exchanges repo.index))
        (repo.sendChunks chunk pieces session).2.state := by
  induction pieces generalizing chunk session with
  | nil =>
    rw [run_sendChunks_nil]
    exact ⟨[], rfl, by simp, rfl, .refl _⟩
  | cons actions rest ih =>
    rcases sendChunks_cons repo chunk actions rest session with ⟨-, hfired⟩ | ⟨-, hrun⟩
    · simp [h] at hfired
    · rw [hrun] at h ⊢
      have hrest := KeepsCancelled.eq_false_of_bind (fun failures => KeepsCancelled.pure _) h
      have hhere := (repo.keepsCancelled_sendChunks (chunk + 1) rest).eq_false hrest
      obtain ⟨sending, hfirst, hlength, -, hfailure, hexchanged⟩ :=
        exchanged_sendChunk repo chunk actions session hhere
      obtain ⟨sendings, hfirsts, hlengths, hresult, hexchangedRest⟩ := ih (chunk + 1) _ hrest
      rw [run_bind_ok (Prod.ext hresult rfl), run_pure]
      refine ⟨sending :: sendings, ?_, ?_, ?_, ?_⟩
      · rw [List.map_cons, hfirst, hfirsts]
      · intro other hother
        rcases List.mem_cons.mp hother with rfl | hmem
        · exact hlength
        · exact hlengths other hmem
      · rw [loadFailures_cons, hfailure]
      · rw [List.flatMap_cons]
        exact hexchanged.append hexchangedRest

/-- A load that is not cancelled, call by call. -/
theorem loaded_bulkWrite (hsize : 0 < repo.options.bulkChunkSize) {actions : List BulkAction}
    (hactions : actions ≠ []) (session : Session (EngineState σ))
    (h : (repo.bulkWrite actions session).2.isCancelled = false) :
    Loaded repo actions session.state (repo.bulkWrite actions session).1
      (repo.bulkWrite actions session).2.state := by
  rw [bulkWrite_eq repo hactions] at h ⊢
  have hloadKeeps : ∀ _ : Unit, KeepsCancelled
      (repo.sendChunks 0 (chunks repo.options.bulkChunkSize actions) >>= repo.endLoad) :=
    fun _ => (repo.keepsCancelled_sendChunks 0 _).bind repo.keepsCancelled_endLoad
  -- Nothing is cancelled at the end, so nothing was after each part of the load.
  have hoff := KeepsCancelled.eq_false_of_bind hloadKeeps h
  obtain ⟨disabling, last, hdisabled, hlast, hexchangedOff⟩ :=
    exchanged_setRefreshInterval repo .disabled session hoff
  cases hrun : repo.setRefreshInterval repo.index .disabled session with
  | mk result disabled =>
    rw [hrun] at hlast hexchangedOff
    cases last with
    | error error =>
      subst hlast
      rw [run_bind_error hrun]
      exact .stopped hdisabled hexchangedOff
    | ok _ =>
      subst hlast
      rw [run_bind_ok hrun] at h ⊢
      have hsent := KeepsCancelled.eq_false_of_bind repo.keepsCancelled_endLoad h
      obtain ⟨sendings, hfirsts, hrequests, hfailures, hexchangedChunks⟩ :=
        exchanged_sendChunks repo 0 _ disabled hsent
      rw [run_bind_ok (Prod.ext hfailures rfl)] at h ⊢
      obtain ⟨restoring, restored, hrestored, hresult, hexchangedOn⟩ :=
        exchanged_setRefreshInterval repo repo.restoredInterval _ h
      rw [run_endLoad, hresult]
      refine .completed hdisabled ?_ ?_ hrequests hrestored
        ((hexchangedOff.append hexchangedChunks).append hexchangedOn)
      · rw [hfirsts, flatten_chunks]
      · intro sending hmem
        apply bounds_of_mem_chunks hsize
        rw [← hfirsts]
        exact List.mem_map_of_mem hmem

end Loads

/-- A load of documents from a session, by what an action does with an id and a
content. If a document cannot be written nothing is sent. -/
structure Loads [Document δ] (repo : Repository σ) (action : String → Json → BulkAction)
    (list : List δ) (session : Session (EngineState σ))
    (ended : Except RepositoryError Unit × Session (EngineState σ)) : Prop where
  measured : repo.retry.IsMeasurable → ended.2.overflowed = session.overflowed
  written_or_not :
    (∃ document ∈ list, ∃ reason, Document.encode document = .error reason ∧
      ended = (.error (.serialization reason), session)) ∨
    ∃ contents, list.map Document.encode = contents.map Except.ok ∧
      Loaded repo (List.zipWith (fun document => action (Document.id document)) list contents)
        session.state ended.1 ended.2.state

theorem loads_load [Document δ] (repo : Repository σ) (hsize : 0 < repo.options.bulkChunkSize)
    (action : String → Json → BulkAction) {list : List δ} (hlist : list ≠ [])
    (session : Session (EngineState σ))
    (h : (repo.load (fun document => action (Document.id document)) list session).2.isCancelled =
      false) :
    repo.Loads action list session
      (repo.load (fun document => action (Document.id document)) list session) := by
  rcases run_load repo (fun document => action (Document.id document)) list session with
    ⟨document, hmem, reason, hencode, hrun⟩ | ⟨contents, hencoded, hrun⟩
  · rw [hrun]
    exact ⟨fun _ => rfl, .inl ⟨document, hmem, reason, hencode, rfl⟩⟩
  · rw [hrun] at h ⊢
    have hlength : list.length = contents.length := by
      simpa using congrArg List.length hencoded
    have hactions :
        List.zipWith (fun document => action (Document.id document)) list contents ≠ [] := by
      have hpositive := List.length_pos_iff.mpr hlist
      apply List.ne_nil_of_length_pos
      rw [List.length_zipWith, ← hlength, Nat.min_self]
      exact hpositive
    exact ⟨fun hmeasurable => keepsMeasured_bulkWrite hmeasurable _ session,
      .inr ⟨contents, hencoded, loaded_bulkWrite repo hsize hactions session h⟩⟩

/-- An engine that refuses its first bulk request and takes all others. -/
def refusing : Engine Nat where
  respond call number :=
    match call with
    | .putSettings .. => ({ outcome := .ok () }, number)
    | .bulk _ actions =>
      if number = 0 then ({ outcome := .ok { status := 413, reason := some "too large" } }, 1)
      else ({ outcome := .ok (.acknowledged (actions.map (·.id)) 200) }, number + 1)
    | _ => ({ outcome := .error (.unexpected "unknown call") }, number)

def refusingFirst : Repository Nat where
  options := { index := "orders", bulkChunkSize := 1 }
  schema := ⟨"Order", []⟩
  retry := .ofAttempts 3
  engine := refusing

def untouched : Session (EngineState Nat) := .start { engine := 0 } none

def entries : List Entry := [⟨"a", .ok (.str "first")⟩, ⟨"b", .ok (.str "second")⟩]

def unwritable : List Entry := [⟨"a", .error "a key must be a string"⟩]

/-- Insertions and updates of documents that are not cancelled, call by call. -/
theorem loads_of_not_cancelled [Document δ] (repo : Repository σ)
    (hoptions : repo.options.validate = .ok ()) (list : List δ) (hlist : list ≠ [])
    (session : Session (EngineState σ)) :
    ((repo.bulkInsert list session).2.isCancelled = false →
      repo.Loads .index list session (repo.bulkInsert list session)) ∧
    ((repo.bulkUpdate list session).2.isCancelled = false →
      repo.Loads .update list session (repo.bulkUpdate list session)) := by
  have hsize := RepositoryOptions.bulkChunkSize_pos hoptions
  rw [bulkInsert_eq, bulkUpdate_eq]
  exact ⟨loads_load repo hsize .index hlist session, loads_load repo hsize .update hlist session⟩

/-- A load of which the first chunk is refused for good. -/
theorem loads_refused_chunk :
    (refusingFirst.bulkInsert entries untouched).1 =
        .error (.bulk (.aggregate ["chunk 0: too large"])) ∧
      (refusingFirst.bulkInsert entries untouched).2.overflowed = false ∧
      refusingFirst.Loads .index entries untouched
        (refusingFirst.bulkInsert entries untouched) := by
  have hoptions : refusingFirst.options.validate = .ok () := by decide +kernel
  have hloads := (loads_of_not_cancelled refusingFirst hoptions entries (by simp [entries])
    untouched).1 (by decide +kernel)
  exact ⟨by decide +kernel, hloads.measured (RetryPolicy.isMeasurable_ofAttempts (by decide)),
    hloads⟩

/-- Nothing is sent when a document cannot be written, not even the settings. -/
theorem not_loaded_unwritable :
    refusingFirst.options.validate = .ok () ∧
      (refusingFirst.bulkInsert unwritable untouched).2.isCancelled = false ∧
      ∀ actions, ¬ Loaded refusingFirst actions untouched.state
        (refusingFirst.bulkInsert unwritable untouched).1
        (refusingFirst.bulkInsert unwritable untouched).2.state := by
  refine ⟨by decide +kernel, by decide +kernel, ?_⟩
  intro actions h
  have hnone : (refusingFirst.bulkInsert unwritable untouched).2.state.calls.length = 0 := by
    decide +kernel
  have hlt := h.length_calls_lt
  omega

end SearchStore.Repository
