import SearchStore.Proofs.Bulk.Load
import SearchStore.Proofs.Retry.Delivery
import Std.Data.HashSet.Lemmas

/-!
What becomes of rejected items. After an answer with rejected items the actions that
go under their ids are sent again. An item that comes back under another id names no
action: if none of the rejected items does, nothing is left to send, the next request
is empty, and its answer counts for the chunk.

So a chunk sends no empty request exactly when every answer with rejected items that
is followed by another request names one of the actions that were sent.
-/

namespace SearchStore

variable {σ δ : Type}

abbrev BulkRequest := List BulkAction × Except EngineError BulkResponse

namespace BulkRequest

def exchange (index : String) (request : BulkRequest) : Exchange :=
  ⟨.bulk index request.1, request.2⟩

/-- If the request was answered and items were rejected, one of these goes under the id
of one of its actions. -/
def NamesRejected (request : BulkRequest) : Prop :=
  ∀ response, request.2 = .ok response → response.status = 200 → response.failedItems ≠ [] →
    ∃ item ∈ response.failedItems, ∃ action ∈ request.1, action.id = item.id

def HasNoIds (body : Json) : Prop :=
  ∀ item ∈ ((body.get? "items").bind Json.asArray?).getD [], ∀ name outcome others,
    item.asObject? = some ((name, outcome) :: others) →
      (outcome.get? "_id").bind Json.asString? = none

theorem id_of_ofJson? {item : Json} {read : BulkItem} (hread : BulkItem.ofJson? item = some read)
    (hitem : ∀ name outcome others, item.asObject? = some ((name, outcome) :: others) →
      (outcome.get? "_id").bind Json.asString? = none) : read.id = "" := by
  cases hobject : item.asObject? with
  | none => simp [BulkItem.ofJson?, hobject] at hread
  | some members =>
    cases members with
    | nil => simp [BulkItem.ofJson?, hobject] at hread
    | cons member others =>
      simp only [BulkItem.ofJson?, hobject, List.head?_cons, Option.bind_eq_bind,
        Option.bind_some, Option.pure_def, Option.some.injEq] at hread
      rw [← hread, hitem _ _ _ hobject]
      rfl

/-- Items without an id are read under the empty one, so they name an action only if
one has this id. -/
theorem namesRejected_ofJson_iff {actions : List BulkAction} {body : Json}
    (hbody : HasNoIds body) (hfailed : (BulkResponse.ofJson 200 body).failedItems ≠ []) :
    NamesRejected (actions, .ok (BulkResponse.ofJson 200 body)) ↔
      ∃ action ∈ actions, action.id = "" := by
  have hempty (item : BulkItem) (hitem : item ∈ (BulkResponse.ofJson 200 body).failedItems) :
      item.id = "" := by
    obtain ⟨entry, hentry, hread⟩ := List.mem_filterMap.mp (List.mem_filter.mp hitem).1
    exact id_of_ofJson? hread (hbody entry hentry)
  constructor
  · intro hnames
    obtain ⟨item, hitem, action, haction, hid⟩ := hnames _ rfl rfl hfailed
    exact ⟨action, haction, hid.trans (hempty item hitem)⟩
  · rintro ⟨action, haction, hid⟩ response ⟨rfl⟩ - -
    obtain ⟨item, hitem⟩ := List.exists_mem_of_ne_nil _ hfailed
    exact ⟨item, hitem, action, haction, hid.trans (hempty item hitem).symm⟩

end BulkRequest

/-- An engine that rejects items of every bulk request and does not say which. With an
empty request it finds no fault. -/
structure Engine.RejectsNameless (engine : Engine σ) : Prop where
  not_cancels : ∀ index actions state,
    (engine.respond (.bulk index actions) state).1.cancels = false
  rejects : ∀ index actions state, actions ≠ [] → ∃ body,
    engine.answer (.bulk index actions) state = .ok (BulkResponse.ofJson 200 body) ∧
      (BulkResponse.ofJson 200 body).failedItems ≠ [] ∧ BulkRequest.HasNoIds body
  passes : ∀ index state, ∃ response,
    engine.answer (.bulk index []) state = .ok response ∧ response.status = 200 ∧
      response.failedItems = []

def Engine.nameless : Engine Unit where
  respond call _ :=
    match call with
    | .bulk _ [] => ({ outcome := .ok { status := 200 } }, ())
    | .bulk _ (_ :: _) =>
      ({ outcome := .ok (.ofJson 200 (.obj [("items", .arr [
        .obj [("index", .obj [("status", .int 429)])]])])) }, ())
    | _ => ({ outcome := .error (.unexpected "unknown call") }, ())

theorem Engine.rejectsNameless_nameless : nameless.RejectsNameless where
  not_cancels index actions _ := by cases actions <;> rfl
  rejects index actions _ hactions := by
    obtain ⟨action, rest, rfl⟩ := List.exists_cons_of_ne_nil hactions
    refine ⟨_, rfl, by decide +kernel, ?_⟩
    intro item hitem name outcome others hobject
    obtain rfl : item = .obj [("index", .obj [("status", .int 429)])] := by
      simpa [Json.get?, List.lookup_cons, Json.asArray?] using hitem
    obtain ⟨⟨rfl, rfl⟩, -⟩ : ("index" = name ∧ Json.obj [("status", .int 429)] = outcome) ∧
        [] = others := by
      simpa [Json.asObject?] using hobject
    rfl
  passes index _ := ⟨_, rfl, rfl, rfl⟩

namespace Repository

open SearchStore.Repository.Action

/-- Requests one after the other, each for what the one before left to send. -/
inductive Resends (first : List BulkAction) : List BulkRequest → List BulkAction → Prop
  | nil : Resends first [] first
  | sent {requests : List BulkRequest} {left : List BulkAction}
      (answer : Except EngineError BulkResponse) (h : Resends first requests left) :
      Resends first (requests ++ [(left, answer)]) (leftToSend left answer)

theorem mem_actionsToResend {actions : List BulkAction} {items : List BulkItem}
    {action : BulkAction} :
    action ∈ actionsToResend actions items ↔
      action ∈ actions ∧ ∃ item ∈ items, item.id = action.id := by
  simp [actionsToResend, Std.HashSet.contains_ofList]

/-- Something is left to send exactly when the rejected items name an action. -/
theorem leftToSend_ne_nil_iff {actions : List BulkAction} (hactions : actions ≠ [])
    (answer : Except EngineError BulkResponse) :
    leftToSend actions answer ≠ [] ↔ BulkRequest.NamesRejected (actions, answer) := by
  cases answer with
  | error error => simp [leftToSend, BulkRequest.NamesRejected, hactions]
  | ok response =>
    by_cases hrejected : response.status = 200 ∧ response.failedItems ≠ []
    · rw [leftToSend, if_pos hrejected]
      constructor
      · rintro hleft other ⟨rfl⟩ - -
        obtain ⟨action, hmem⟩ := List.exists_mem_of_ne_nil _ hleft
        obtain ⟨haction, item, hitem, hid⟩ := mem_actionsToResend.mp hmem
        exact ⟨item, hitem, action, haction, hid.symm⟩
      · intro hnames
        obtain ⟨item, hitem, action, haction, hid⟩ :=
          hnames response rfl hrejected.1 hrejected.2
        exact List.ne_nil_of_mem (mem_actionsToResend.mpr ⟨haction, item, hitem, hid.symm⟩)
    · rw [leftToSend, if_neg hrejected]
      refine ⟨fun _ => ?_, fun _ => hactions⟩
      rintro other ⟨rfl⟩ hstatus hfailed
      exact absurd ⟨hstatus, hfailed⟩ hrejected

/-- All requests carry actions, and something is left, exactly when all of them that
have items rejected name an action. -/
theorem Resends.carry_iff {first left : List BulkAction} {requests : List BulkRequest}
    (h : Resends first requests left) (hfirst : first ≠ []) :
    ((∀ request ∈ requests, request.1 ≠ []) ∧ left ≠ []) ↔
      ∀ request ∈ requests, request.NamesRejected := by
  induction h with
  | nil => simpa using hfirst
  | @sent requests left answer _ ih =>
    simp only [List.mem_append, List.mem_singleton, or_imp, forall_and, forall_eq]
    rw [← ih]
    constructor
    · rintro ⟨⟨hearlier, hleft⟩, hnext⟩
      exact ⟨⟨hearlier, hleft⟩, (leftToSend_ne_nil_iff hleft answer).mp hnext⟩
    · rintro ⟨⟨hearlier, hleft⟩, hnames⟩
      exact ⟨⟨hearlier, hleft⟩, (leftToSend_ne_nil_iff hleft answer).mpr hnames⟩

/-- No request is empty exactly when all but the last one that have items rejected name
an action. -/
theorem Resends.all_carry_iff {first left : List BulkAction} {requests : List BulkRequest}
    (h : Resends first requests left) (hfirst : first ≠ []) :
    (∀ request ∈ requests, request.1 ≠ []) ↔
      ∀ request ∈ requests.dropLast, request.NamesRejected := by
  cases h with
  | nil => simp
  | @sent requests left answer h =>
    rw [List.dropLast_concat, ← h.carry_iff hfirst]
    simp only [List.mem_append, List.mem_singleton, or_imp, forall_and, forall_eq]

/-- Once nothing is left, nothing will be. -/
theorem Resends.all_carry_of_left {first left : List BulkAction} {requests : List BulkRequest}
    (h : Resends first requests left) (hleft : left ≠ []) :
    ∀ request ∈ requests, request.1 ≠ [] := by
  induction h with
  | nil => simp
  | @sent requests left answer _ ih =>
    have hhere : left ≠ [] := by
      rintro rfl
      cases answer with
      | error error => exact hleft rfl
      | ok response =>
        obtain ⟨action, hmem⟩ := List.exists_mem_of_ne_nil _ hleft
        simp [leftToSend, actionsToResend] at hmem
    simp only [List.mem_append, List.mem_singleton, or_imp, forall_and, forall_eq]
    exact ⟨ih hhere, hhere⟩

theorem exists_of_chunkResult_eq_ok_none {chunk : Nat} {actions : List BulkAction}
    {answer : Except EngineError BulkResponse} (h : chunkResult chunk actions answer = .ok none) :
    ∃ response, answer = .ok response ∧ response.status = 200 ∧ response.failedItems = [] := by
  rw [← chunkFailure?_eq_none_iff chunk actions, ← failureOf_chunkResult, h]
  rfl

structure ChunkRun where
  actions : List BulkAction
  requests : List BulkRequest
  result : Except RepositoryError (Option String)

namespace ChunkRun

def exchanges (index : String) (run : ChunkRun) : List Exchange :=
  run.requests.map (·.exchange index)

structure IsFrom (run : ChunkRun) (repo : Repository σ) (chunk : Nat)
    (session : Session (EngineState σ)) : Prop where
  result_eq : (repo.sendChunk chunk run.actions session).1 = run.result
  exchanged : session.state.Exchanged repo.engine (run.exchanges repo.index)
    (repo.sendChunk chunk run.actions session).2.state

structure Accounted (run : ChunkRun) : Prop where
  /-- Each request is for what the one before left to send. -/
  resends : ∃ left, Resends run.actions run.requests left
  /-- No request is empty exactly when every answer with rejected items that is followed
  by another request names an action. -/
  all_carry_iff : (∀ request ∈ run.requests, request.1 ≠ []) ↔
    ∀ request ∈ run.requests.dropLast, request.NamesRejected
  /-- A chunk that is done ends with an answer of which no item was rejected; this is the
  answer to an empty request exactly when rejected items named no action before. -/
  of_done : run.result = .ok none → ∃ earlier last response,
    run.requests = earlier ++ [(last, .ok response)] ∧ response.status = 200 ∧
      response.failedItems = [] ∧
      (last ≠ [] ↔ ∀ request ∈ earlier, BulkRequest.NamesRejected request)

end ChunkRun

section Runs

variable (repo : Repository σ)

structure SentSoFar (first : List BulkAction) (before : EngineState σ)
    (requests : List BulkRequest) (state : EngineState σ × List BulkAction) : Prop where
  resends : Resends first requests state.2
  exchanged : before.Exchanged repo.engine (requests.map (·.exchange repo.index)) state.1

variable {repo} in
theorem SentSoFar.attempt {first : List BulkAction} {before : EngineState σ}
    {requests : List BulkRequest} {state : EngineState σ × List BulkAction}
    (h : repo.SentSoFar first before requests state) (chunk now : Nat) :
    repo.SentSoFar first before (requests ++ [repo.chunkRequest state])
      (repo.attemptChunk chunk now state).2 := by
  rw [attemptChunk_state]
  constructor
  · exact .sent _ h.resends
  · rw [List.map_append]
    exact h.exchanged.append (.attempt (.bulk repo.index state.2) now state.1)

/-- A chunk is done when its last request had no item rejected. -/
def IsDone (first : List BulkAction) (requests : List BulkRequest) : Prop :=
  ∃ earlier last response, requests = earlier ++ [(last, .ok response)] ∧
    Resends first earlier last ∧ response.status = 200 ∧ response.failedItems = []

/-- The sending of a chunk, request by request: all but the last one failed, and the last
one decides unless cancellation does. -/
structure SentThrough (chunk : Nat) (first : List BulkAction) (before : EngineState σ)
    (requests : List BulkRequest) (result : Except RepositoryError (Option String))
    (after : EngineState σ) : Prop where
  sent : ∃ left, repo.SentSoFar first before requests (after, left)
  earlier_failed : ∀ request ∈ requests.dropLast, ∃ error,
    chunkResult chunk request.1 request.2 = .error error
  ended : result = .error .cancelled ∨ ∃ earlier last, requests = earlier ++ [last] ∧
    Resends first earlier last.1 ∧ result = chunkResult chunk last.1 last.2

theorem sentThrough_sendChunk (chunk : Nat) (actions : List BulkAction)
    (session : Session (EngineState σ)) :
    ∃ requests, repo.SentThrough chunk actions session.state requests
      (repo.sendChunk chunk actions session).1 (repo.sendChunk chunk actions session).2.state := by
  have hkeeps : Task.AttemptInvariant repo.retry repo.shouldRetry
      (fun _ now => repo.attemptChunk chunk now)
      (fun _ state => ∃ requests, repo.SentSoFar actions session.state requests state ∧
        ∀ request ∈ requests, ∃ error, chunkResult chunk request.1 request.2 = .error error)
      (fun result state => ∃ requests, repo.SentThrough chunk actions session.state requests
        (result.mapError RetryFailure.toError) state.1) := {
    cancelled := fun _ _ ⟨requests, hsent, hfailed⟩ => ⟨requests, ⟨_, hsent⟩,
      fun request hrequest => hfailed request (List.dropLast_subset _ hrequest), .inl rfl⟩
    interrupted := by
      rintro n now state ⟨requests, hsent, hfailed⟩
      refine ⟨_, ⟨_, hsent.attempt chunk now⟩, ?_, .inl rfl⟩
      rwa [List.dropLast_concat]
    stopped := by
      rintro n now state - ⟨requests, hsent, hfailed⟩ -
      refine ⟨_, ⟨_, hsent.attempt chunk now⟩, ?_,
        .inr ⟨requests, repo.chunkRequest state, rfl, hsent.resends, ?_⟩⟩
      · rwa [List.dropLast_concat]
      · rw [attemptChunk_outcome]
        change _ = chunkResult chunk state.2 (repo.chunkRequest state).2
        cases chunkResult chunk state.2 (repo.chunkRequest state).2 <;> rfl
    retried := by
      rintro n now state delay ⟨requests, hsent, hfailed⟩ hdelay
      refine ⟨_, hsent.attempt chunk now, ?_⟩
      obtain ⟨error, herror, -⟩ := RetryPolicy.exists_error_of_nextDelay?_eq_some hdelay
      rw [attemptChunk_outcome] at herror
      simp only [List.mem_append, List.mem_singleton, or_imp, forall_and, forall_eq]
      exact ⟨hfailed, error, herror⟩ }
  exact RetryPolicy.execute_induction hkeeps { session with state := (session.state, actions) }
    ⟨[], ⟨.nil, .refl _⟩, by simp⟩

/-- The sending of a chunk, and what it means that it is done. -/
theorem sentSoFar_sendChunk (chunk : Nat) (actions : List BulkAction)
    (session : Session (EngineState σ)) :
    ∃ requests left, repo.SentSoFar actions session.state requests
        ((repo.sendChunk chunk actions session).2.state, left) ∧
      ((repo.sendChunk chunk actions session).1 = .ok none → IsDone actions requests) := by
  obtain ⟨requests, ⟨left, hsent⟩, -, hended⟩ := repo.sentThrough_sendChunk chunk actions session
  refine ⟨requests, left, hsent, fun hdone => ?_⟩
  rcases hended with hcancelled | ⟨earlier, ⟨last, answer⟩, hrequests, hresends, hresult⟩
  · rw [hcancelled] at hdone
    cases hdone
  · obtain ⟨response, rfl, hstatus, hfailed⟩ :=
      exists_of_chunkResult_eq_ok_none (hresult.symm.trans hdone)
    exact ⟨earlier, last, response, hrequests, hresends, hstatus, hfailed⟩

/-- What becomes of the rejected items of a chunk that is sent. -/
theorem exists_run_sendChunk (chunk : Nat) {actions : List BulkAction} (hactions : actions ≠ [])
    (session : Session (EngineState σ)) :
    ∃ run : ChunkRun, run.actions = actions ∧ run.IsFrom repo chunk session ∧ run.Accounted := by
  obtain ⟨requests, left, hsent, hdone⟩ := repo.sentSoFar_sendChunk chunk actions session
  refine ⟨⟨actions, requests, (repo.sendChunk chunk actions session).1⟩, rfl,
    ⟨rfl, hsent.exchanged⟩, ?_⟩
  constructor
  · exact ⟨left, hsent.resends⟩
  · exact hsent.resends.all_carry_iff hactions
  · intro hresult
    obtain ⟨earlier, last, response, hrequests, hresends, hstatus, hfailed⟩ := hdone hresult
    refine ⟨earlier, last, response, hrequests, hstatus, hfailed, ?_⟩
    rw [← hresends.carry_iff hactions]
    exact ⟨fun hlast => ⟨hresends.all_carry_of_left hlast, hlast⟩, fun hboth => hboth.2⟩

section Nameless

variable {repo} (hengine : repo.engine.RejectsNameless) (chunk : Nat)
include hengine

/-- An attempt after which nothing is left to send. -/
theorem attemptChunk_of_rejectsNameless (now : Nat) {state : EngineState σ × List BulkAction}
    (hactions : state.2 ≠ []) (hids : ∀ action ∈ state.2, action.id ≠ "") :
    (∃ error, (repo.attemptChunk chunk now state).1.outcome = .error (.bulk error)) ∧
      (repo.attemptChunk chunk now state).2.2 = [] := by
  obtain ⟨body, hanswer, hfailed, hbody⟩ :=
    hengine.rejects repo.index state.2 state.1.engine hactions
  have hrequest : (repo.chunkRequest state).2 = .ok (BulkResponse.ofJson 200 body) := hanswer
  rw [attemptChunk_outcome, attemptChunk_state, hrequest]
  refine ⟨chunkResult_of_failed chunk state.2 rfl hfailed, ?_⟩
  apply Classical.byContradiction
  intro hleft
  obtain ⟨action, haction, hid⟩ := (BulkRequest.namesRejected_ofJson_iff hbody hfailed).mp
    ((leftToSend_ne_nil_iff hactions _).mp hleft)
  exact hids action haction hid

/-- An attempt with nothing to send. -/
theorem attemptChunk_of_nothing_left (now : Nat) {state : EngineState σ × List BulkAction}
    (hempty : state.2 = []) :
    (repo.attemptChunk chunk now state).1.outcome = .ok none := by
  obtain ⟨response, hanswer, hstatus, hfailed⟩ := hengine.passes repo.index state.1.engine
  have hrequest : (repo.chunkRequest state).2 = .ok response := by
    rw [chunkRequest, hempty]
    exact hanswer
  rw [attemptChunk_outcome, hrequest, chunkResult_of_taken chunk state.2 hstatus hfailed]

/-- Where rejected items come back without ids, a chunk counts as done although no action
of it was taken. -/
theorem sendChunk_of_rejectsNameless (hretry : repo.options.retryTransientOnly = false)
    (hattempts : 1 < repo.retry.maxAttempts) (hmeasurable : repo.retry.IsMeasurable)
    {actions : List BulkAction} (hactions : actions ≠ [])
    (hids : ∀ action ∈ actions, action.id ≠ "") (session : Session (EngineState σ))
    (h : session.cancelledAt = none) : (repo.sendChunk chunk actions session).1 = .ok none := by
  have hkeeps : Task.AttemptInvariant repo.retry repo.shouldRetry
      (fun _ now => repo.attemptChunk chunk now)
      (fun n state => n = 1 ∧ state.2 = actions ∨ n = 2 ∧ state.2 = [])
      (fun result _ => result = .error .cancelled ∨ result = .ok none) := {
    cancelled := fun _ _ _ => .inl rfl
    interrupted := fun _ _ _ _ => .inl rfl
    stopped := by
      rintro _ now state - (⟨rfl, hstate⟩ | ⟨rfl, hstate⟩) hlast
      · subst hstate
        obtain ⟨⟨error, houtcome⟩, -⟩ :=
          attemptChunk_of_rejectsNameless hengine chunk now hactions hids
        have hworth : repo.shouldRetry (.bulk error) = true := by
          simp [shouldRetry, hretry, RepositoryError.isRetryable]
        have hused := RetryPolicy.maxAttempts_le_of_last hmeasurable houtcome hworth hlast
        omega
      · right
        rw [attemptChunk_of_nothing_left hengine chunk now hstate]
        rfl
    retried := by
      rintro _ now state delay (⟨rfl, hstate⟩ | ⟨rfl, hstate⟩) hdelay
      · subst hstate
        exact .inr ⟨rfl, (attemptChunk_of_rejectsNameless hengine chunk now hactions hids).2⟩
      · obtain ⟨error, herror, -⟩ := RetryPolicy.exists_error_of_nextDelay?_eq_some hdelay
        rw [attemptChunk_of_nothing_left hengine chunk now hstate] at herror
        cases herror }
  have hcalm (n now : Nat) (state : EngineState σ × List BulkAction) :
      (repo.attemptChunk chunk now state).1.cancels = false := by
    rw [attemptChunk_cancels]
    exact hengine.not_cancels repo.index state.2 state.1.engine
  have hresult := (RetryPolicy.execute_induction hkeeps
    { session with state := (session.state, actions) } (.inl ⟨rfl, rfl⟩)).resolve_left
    (RetryPolicy.execute_ne_cancelled hcalm repo.retry repo.shouldRetry _ h)
  simp only [sendChunk, hresult]
  rfl

end Nameless

/-- A document of which the engine only says that something was rejected. -/
theorem sendChunk_nameless :
    (({ options := { index := "orders" }, schema := ⟨"Order", []⟩, retry := .ofAttempts 3,
        engine := .nameless } : Repository Unit).sendChunk 0 [.index "a" (.str "first")]
      (.start { engine := () } none)).1 = .ok none :=
  sendChunk_of_rejectsNameless Engine.rejectsNameless_nameless 0 rfl (by decide)
    (RetryPolicy.isMeasurable_ofAttempts (by decide)) (by simp) (by simp [BulkAction.id]) _ rfl

/-- Chunks one after the other, up to the one at which cancellation ends the load. -/
theorem exists_runs_sendChunks (chunk : Nat) (pieces : List (List BulkAction))
    (hpieces : ∀ piece ∈ pieces, piece ≠ []) (session : Session (EngineState σ)) :
    ∃ runs : List ChunkRun, runs.map ChunkRun.actions <+: pieces ∧
      (∀ run ∈ runs, (∃ chunk session, run.IsFrom repo chunk session) ∧ run.Accounted) ∧
      session.state.Exchanged repo.engine (runs.flatMap (·.exchanges repo.index))
        (repo.sendChunks chunk pieces session).2.state := by
  induction pieces generalizing chunk session with
  | nil =>
    rw [run_sendChunks_nil]
    exact ⟨[], List.nil_prefix, by simp, .refl _⟩
  | cons actions rest ih =>
    obtain ⟨hhere, hrest⟩ := List.forall_mem_cons.mp hpieces
    cases hcancelled : session.isCancelled with
    | true =>
      rw [run_sendChunks_cons, if_pos hcancelled]
      exact ⟨[], List.nil_prefix, by simp, .refl _⟩
    | false =>
      obtain ⟨run, rfl, hrun, haccounted⟩ := repo.exists_run_sendChunk chunk hhere session
      have hsent : outcome (repo.sendChunk chunk run.actions) session =
          (.ok (repo.sendChunk chunk run.actions session).1,
            (repo.sendChunk chunk run.actions session).2) := rfl
      rw [run_sendChunks_cons_of_not_cancelled _ _ _ _ _ hcancelled, run_bind_ok hsent]
      rcases repo.snd_afterChunk chunk rest _ (repo.sendChunk chunk run.actions session).2 with
        hends | hends
      · rw [hends]
        refine ⟨[run], by simp, by simpa using ⟨⟨chunk, session, hrun⟩, haccounted⟩, ?_⟩
        simpa using hrun.exchanged
      · obtain ⟨runs, hprefix, hall, hrestExchanged⟩ :=
          ih (chunk + 1) hrest (repo.sendChunk chunk run.actions session).2
        rw [hends]
        refine ⟨run :: runs, ?_,
          List.forall_mem_cons.mpr ⟨⟨⟨chunk, session, hrun⟩, haccounted⟩, hall⟩, ?_⟩
        · rw [List.map_cons]
          exact (List.prefix_cons_inj _).mpr hprefix
        · rw [List.flatMap_cons]
          exact hrun.exchanged.append hrestExchanged

/-- A load as the chunks that were sent of it: setting the refresh interval, the
requests of each chunk, and setting the interval again. -/
structure LoadAccounted (ids : List String) (session : Session (EngineState σ))
    (runs : List ChunkRun) (final : Session (EngineState σ)) : Prop where
  ids_prefix : (runs.flatMap fun run => run.actions.map (·.id)) <+: ids
  accounted : ∀ run ∈ runs, run.actions ≠ [] ∧ (∃ chunk session, run.IsFrom repo chunk session) ∧
    run.Accounted
  exchanged : ∃ disabling restoring, session.state.Exchanged repo.engine
    (repo.refreshExchanges .disabled disabling ++ runs.flatMap (·.exchanges repo.index) ++
      repo.refreshExchanges repo.restoredInterval restoring) final.state

theorem exists_loadAccounted_bulkWrite (actions : List BulkAction)
    (session : Session (EngineState σ)) :
    ∃ runs, repo.LoadAccounted (actions.map (·.id)) session runs
      (repo.bulkWrite actions session).2 := by
  by_cases hempty : actions = []
  · subst hempty
    exact ⟨[], List.nil_prefix, by simp, [], [], .refl _⟩
  · rw [bulkWrite_eq repo hempty]
    obtain ⟨disabling, hdisabling⟩ := repo.madeOnly_call (repo.refreshCall .disabled) session
    cases hoff : repo.setRefreshInterval repo.index .disabled session with
    | mk result disabled =>
      have hdisabled : session.state.Exchanged repo.engine
          (repo.refreshExchanges .disabled disabling) disabled.state := by
        have hstate : (repo.call (repo.refreshCall .disabled) session).2 = disabled :=
          congrArg Prod.snd hoff
        rwa [hstate] at hdisabling
      cases result with
      | error error =>
        rw [run_bind_error hoff]
        exact ⟨[], List.nil_prefix, by simp, disabling, [],
          (hdisabled.append (.refl _)).append (.refl _)⟩
      | ok _ =>
        rw [run_bind_ok hoff]
        obtain ⟨runs, hprefix, hruns, hsent⟩ := repo.exists_runs_sendChunks 0
          (chunks repo.options.bulkChunkSize actions) (fun _ => ne_nil_of_mem_chunks) disabled
        obtain ⟨unsent, hsplit⟩ := hprefix
        have hids : (runs.flatMap fun run => run.actions.map (·.id)) <+: actions.map (·.id) := by
          have hactions : (runs.map ChunkRun.actions ++ unsent).flatten = actions := by
            rw [hsplit, flatten_chunks]
          refine ⟨unsent.flatten.map (·.id), ?_⟩
          rw [← hactions]
          simp [List.flatMap, List.map_flatten, Function.comp_def]
        have haccounted (run : ChunkRun) (hrun : run ∈ runs) :
            run.actions ≠ [] ∧ (∃ chunk session, run.IsFrom repo chunk session) ∧
              run.Accounted := by
          have hpiece : run.actions ∈ chunks repo.options.bulkChunkSize actions := by
            rw [← hsplit]
            exact List.mem_append_left _ (List.mem_map_of_mem hrun)
          exact ⟨ne_nil_of_mem_chunks hpiece, hruns run hrun⟩
        cases hchunks : repo.sendChunks 0 (chunks repo.options.bulkChunkSize actions) disabled with
        | mk result sent =>
          rw [hchunks] at hsent
          cases result with
          | error error =>
            rw [run_bind_error hchunks]
            exact ⟨runs, hids, haccounted, disabling, [],
              (hdisabled.append hsent).append (.refl _)⟩
          | ok failures =>
            obtain ⟨restoring, hrestored⟩ := repo.madeOnly_call
              (repo.refreshCall repo.restoredInterval) sent
            rw [run_bind_ok hchunks, run_endLoad]
            exact ⟨runs, hids, haccounted, disabling, restoring,
              (hdisabled.append hsent).append hrestored⟩

theorem exists_loadAccounted_load [Document δ] (action : String → Json → BulkAction)
    (haction : ∀ id content, (action id content).id = id) (list : List δ)
    (session : Session (EngineState σ)) :
    ∃ runs, repo.LoadAccounted (list.map Document.id) session runs
      (repo.load (fun document => action (Document.id document)) list session).2 := by
  rcases run_load repo (fun document => action (Document.id document)) list session with
    ⟨document, hmem, reason, hencode, hrun⟩ | ⟨contents, hencoded, hrun⟩
  · rw [hrun]
    exact ⟨[], List.nil_prefix, by simp, [], [], .refl _⟩
  · have hids : (List.zipWith (fun document => action (Document.id document)) list contents).map
        (·.id) = list.map Document.id := by
      have hlength : list.length = contents.length := by
        simpa using congrArg List.length hencoded
      apply List.ext_getElem
      · simp [hlength]
      · simp [haction]
    rw [hrun, ← hids]
    exact repo.exists_loadAccounted_bulkWrite _ session

end Runs

/-- What becomes of rejected items, in a chunk and in a load. -/
theorem accounts_for_rejected [Document δ] (repo : Repository σ)
    (session : Session (EngineState σ)) :
    (∀ chunk action rest, ∃ run : ChunkRun, run.actions = action :: rest ∧
      run.IsFrom repo chunk session ∧ run.Accounted) ∧
    (∀ list : List δ, ∃ runs, repo.LoadAccounted (list.map Document.id) session runs
      (repo.bulkInsert list session).2) ∧
    (∀ list : List δ, ∃ runs, repo.LoadAccounted (list.map Document.id) session runs
      (repo.bulkUpdate list session).2) := by
  refine ⟨fun chunk action rest => ?_, fun list => ?_, fun list => ?_⟩
  · exact repo.exists_run_sendChunk chunk (List.cons_ne_nil action rest) session
  · rw [bulkInsert_eq]
    exact repo.exists_loadAccounted_load .index (fun _ _ => rfl) list session
  · rw [bulkUpdate_eq]
    exact repo.exists_loadAccounted_load .update (fun _ _ => rfl) list session

end Repository

end SearchStore
