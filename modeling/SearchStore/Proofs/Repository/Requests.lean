import SearchStore.Proofs.Repository.Masking

/-!
All that can be asked of a repository, and that none of it is affected by requests
that get lost. If without losses no call needs a second attempt, then with fewer
losses of each call than attempts are allowed the result is the same, and so is the
state of the engine.
-/

namespace SearchStore

variable {σ τ δ : Type}

namespace Repository

open SearchStore.Repository.Action

inductive Request (δ : Type) where
  | documentExists (id : String)
  | get (id : String)
  | count (filter : List FilterField)
  | search (filter : List FilterField) (paging : Paging)
  | aggregations (filter : List FilterField)
  | insert (document : δ)
  | update (id : String) (document : δ) (index : Option String)
  | updatePartial (id : String) (part : Json)
  | delete (id : String)
  | bulkInsert (documents : List δ)
  | bulkUpdate (documents : List δ)
  | bulkDelete (ids : List String)
  | setRefreshInterval (index : String) (interval : RefreshInterval)
  | createIndex
  | deleteIndex

namespace Request

@[reducible]
def Result : Request δ → Type
  | .documentExists _ | .createIndex => Bool
  | .get _ => Option δ
  | .count _ => Nat
  | .search .. => SearchResult δ
  | .aggregations _ => List AggregateResult
  | _ => Unit

def run [Document δ] (repo : Repository σ) : (request : Request δ) → Action σ request.Result
  | .documentExists id => repo.documentExists id
  | .get id => repo.get id
  | .count filter => repo.count filter
  | .search filter paging => repo.search filter paging
  | .aggregations filter => repo.aggregations filter
  | .insert document => repo.insert document
  | .update id document index => repo.update id document index
  | .updatePartial id part => repo.updatePartial id part
  | .delete id => repo.delete id
  | .bulkInsert documents => repo.bulkInsert documents
  | .bulkUpdate documents => repo.bulkUpdate documents
  | .bulkDelete ids => repo.bulkDelete ids
  | .setRefreshInterval index interval => repo.setRefreshInterval index interval
  | .createIndex => repo.createIndex
  | .deleteIndex => repo.deleteIndex

end Request

section Masking

variable {repo : Repository σ} {engine : Engine τ} {view : τ → σ} {left : Engine.Call → τ → Nat}
  (hdelivers : engine.DeliversTo repo.engine view left repo.retry.maxAttempts)
  (hcalm : ∀ call state, (repo.engine.respond call state).1.cancels = false)
  (hmeasurable : repo.retry.IsMeasurable)
include hdelivers hcalm hmeasurable

theorem masks_sendChunks (chunk : Nat) (pieces : List (List BulkAction)) :
    Masks view (repo.unwaiting.sendChunks chunk pieces)
      ((repo.withEngine engine).sendChunks chunk pieces) := by
  induction pieces generalizing chunk with
  | nil =>
    rw [sendChunks, sendChunks]
    exact .pure []
  | cons actions rest ih =>
    have hafter (result : Except RepositoryError (Option String)) :
        Masks view (repo.unwaiting.afterChunk chunk rest result)
          ((repo.withEngine engine).afterChunk chunk rest result) := by
      unfold afterChunk
      split
      · exact .ofExcept _
      · exact (ih (chunk + 1)).bind fun failures => .pure _
    have hpiece := (masks_sendChunk hdelivers hcalm hmeasurable chunk actions).outcome.bind hafter
    constructor
    · intro session hsession
      cases hcancelled : session.isCancelled with
      | true =>
        rw [run_sendChunks_cons, if_pos hcancelled]
        exact hsession
      | false =>
        rw [run_sendChunks_cons_of_not_cancelled _ _ _ _ _ hcancelled]
        exact hpiece.stays_void session hsession
    · intro plain session halike
      have hplain : plain.isCancelled = false := by
        rw [Session.isCancelled, halike.plain_uncancelled]
        rfl
      have hlossy : session.isCancelled = false := by
        rw [Session.isCancelled, halike.lossy_uncancelled]
        rfl
      rw [run_sendChunks_cons_of_not_cancelled _ _ _ _ _ hplain,
        run_sendChunks_cons_of_not_cancelled _ _ _ _ _ hlossy]
      exact hpiece.ends_alike plain session halike

theorem masks_bulkWrite (actions : List BulkAction) :
    Masks view (repo.unwaiting.bulkWrite actions) ((repo.withEngine engine).bulkWrite actions) := by
  by_cases hempty : actions = []
  · subst hempty
    exact .pure ()
  · have hend (failures : List String) :
        Masks view (repo.unwaiting.endLoad failures)
          ((repo.withEngine engine).endLoad failures) := by
      rw [endLoad_eq, endLoad_eq]
      exact (masks_call hdelivers hcalm hmeasurable _).outcome.bind fun restored => .ofExcept _
    rw [bulkWrite_eq _ hempty, bulkWrite_eq _ hempty]
    exact (masks_call hdelivers hcalm hmeasurable _).bind fun _ =>
      (masks_sendChunks hdelivers hcalm hmeasurable 0 _).bind hend

theorem masks_bulkDelete (ids : List String) :
    Masks view (repo.unwaiting.bulkDelete ids) ((repo.withEngine engine).bulkDelete ids) := by
  unfold bulkDelete
  refine .ite (.pure ()) ((masks_call hdelivers hcalm hmeasurable _).bind fun response => ?_)
  refine .ite ((Masks.throw _).bind fun _ => ?_) ?_
  all_goals exact .ite (.throw _) (.pure ())

theorem masks_get [Document δ] (id : String) :
    Masks view (repo.unwaiting.get id : Action σ (Option δ)) ((repo.withEngine engine).get id) := by
  refine (masks_call hdelivers hcalm hmeasurable _).bind fun answer => ?_
  cases answer with
  | none => exact .pure none
  | some hit => exact .ite (.pure none) ((Masks.ofExcept _).bind fun document => .pure _)

theorem masks_createUnlessExists (name : String) (body : Json) :
    Masks view (repo.unwaiting.createUnlessExists name body)
      ((repo.withEngine engine).createUnlessExists name body) := by
  refine (masks_call hdelivers hcalm hmeasurable _).bind fun known => ?_
  exact .ite (.pure false) ((masks_call hdelivers hcalm hmeasurable _).bind fun _ => .pure true)

theorem masks_prepareRollover :
    Masks view repo.unwaiting.prepareRollover (repo.withEngine engine).prepareRollover := by
  have htemplate := masks_call hdelivers hcalm hmeasurable
    (.putIndexTemplate repo.options.pattern repo.templateBody)
  refine (masks_call hdelivers hcalm hmeasurable _).bind fun lifecycle => ?_
  exact .ite ((masks_call hdelivers hcalm hmeasurable _).bind fun _ => htemplate) htemplate

theorem masks_createIndex :
    Masks view repo.unwaiting.createIndex (repo.withEngine engine).createIndex := by
  have hcreate := masks_createUnlessExists hdelivers hcalm hmeasurable
  have hprepare := masks_prepareRollover hdelivers hcalm hmeasurable
  refine .ite ?_ (hcreate _ _)
  refine (masks_call hdelivers hcalm hmeasurable _).bind fun known => ?_
  exact .ite (hprepare.bind fun _ => hcreate _ _) (hcreate _ _)

theorem masks_deleteIndex (hcommute : MembersCommute repo.engine) :
    Masks view repo.unwaiting.deleteIndex (repo.withEngine engine).deleteIndex := by
  have hcall := masks_call hdelivers hcalm hmeasurable
  have hemptied := masks_callAll hdelivers hcalm hmeasurable (.deleteByQuery · everything)
    (fun _ => rfl) (fun index other hne => (hcommute index other hne).1)
  have hdeleted := masks_callAll hdelivers hcalm hmeasurable .deleteIndex
    (fun _ => rfl) (fun index other hne => (hcommute index other hne).2)
  have hrolled : Masks view
      (repo.unwaiting.call (.getAlias repo.index) >>= fun members =>
        repo.unwaiting.callAll (members.map (.deleteByQuery · everything)) >>= fun _ =>
          repo.unwaiting.callAll (members.map .deleteIndex) >>= fun _ =>
            repo.unwaiting.call (.deleteAlias repo.index))
      ((repo.withEngine engine).call (.getAlias repo.index) >>= fun members =>
        (repo.withEngine engine).callAll (members.map (.deleteByQuery · everything)) >>= fun _ =>
          (repo.withEngine engine).callAll (members.map .deleteIndex) >>= fun _ =>
            (repo.withEngine engine).call (.deleteAlias repo.index)) :=
    (hcall _).bind fun members => (hemptied members).bind fun _ => (hdeleted members).bind fun _ =>
      hcall _
  have hsingle : Masks view
      (repo.unwaiting.call (.deleteByQuery repo.index everything) >>= fun _ =>
        repo.unwaiting.call (.deleteIndex repo.index))
      ((repo.withEngine engine).call (.deleteByQuery repo.index everything) >>= fun _ =>
        (repo.withEngine engine).call (.deleteIndex repo.index)) :=
    (hcall _).bind fun _ => hcall _
  exact .ite ((hcall _).bind fun _ => .ite hrolled hsingle)
    ((Masks.pure false).bind fun _ => .ite hrolled hsingle)

/-- Whatever is asked of a repository, lost requests are made up for. -/
theorem masks_run [Document δ] (hcommute : MembersCommute repo.engine) (request : Request δ) :
    Masks view (request.run repo.unwaiting) (request.run (repo.withEngine engine)) := by
  have hcall := masks_call hdelivers hcalm hmeasurable
  have hwrite := masks_bulkWrite hdelivers hcalm hmeasurable
  cases request with
  | documentExists id => exact hcall _
  | get id => exact masks_get hdelivers hcalm hmeasurable id
  | count filter => exact hcall _
  | search filter paging => exact (hcall _).bind fun _ => .ofExcept _
  | aggregations filter => exact (hcall _).bind fun _ => .pure _
  | insert document => exact (Masks.ofExcept _).bind fun _ => hcall _
  | update id document index => exact (Masks.ofExcept _).bind fun _ => hcall _
  | updatePartial id part => exact hcall _
  | delete id => exact (hcall _).bind fun found => .ite (hcall _) (.pure ())
  | bulkInsert documents => exact (Masks.ofExcept _).bind hwrite
  | bulkUpdate documents => exact (Masks.ofExcept _).bind hwrite
  | bulkDelete ids => exact masks_bulkDelete hdelivers hcalm hmeasurable ids
  | setRefreshInterval index interval => exact hcall _
  | createIndex => exact masks_createIndex hdelivers hcalm hmeasurable
  | deleteIndex => exact masks_deleteIndex hdelivers hcalm hmeasurable hcommute

end Masking

/-- Whether a request can be met without a second attempt of any call: whether it
is not void when no wait for one can be measured. -/
def NeedsNoSecondAttempt [Document δ] (repo : Repository σ) (request : Request δ)
    (session : Session (EngineState σ)) : Prop :=
  (request.run repo.unwaiting session).2.overflowed = false

end Repository

def Session.losing {attempts : Nat} (session : Session (EngineState σ))
    (losses : Losses attempts) : Session (EngineState (σ × Losses attempts)) :=
  { session with
    state := { engine := (session.state.engine, losses), calls := session.state.calls } }

namespace Repository

/-- If a request can be met without a second attempt of any call, then it is met in
the same way when of each call fewer requests get lost than attempts are allowed. -/
theorem run_losing [Document δ] (repo : Repository σ) (hmeasurable : repo.retry.IsMeasurable)
    (hcalm : ∀ call state, (repo.engine.respond call state).1.cancels = false)
    (hcommute : MembersCommute repo.engine) (request : Request δ)
    (session : Session (EngineState σ)) (huncancelled : session.cancelledAt = none)
    (hvalid : session.overflowed = false) (honce : repo.NeedsNoSecondAttempt request session)
    (losses : Losses repo.retry.maxAttempts) :
    let plain := request.run repo session
    let lossy := request.run (repo.withEngine (repo.engine.losing repo.retry.maxAttempts))
      (session.losing losses)
    lossy.1 = plain.1 ∧ lossy.2.state.engine.1 = plain.2.state.engine ∧
      plain.2.overflowed = false ∧ lossy.2.overflowed = false := by
  have hpos := repo.retry.maxAttempts_pos
  have hover : (request.run repo.unwaiting session).2.overflowed ≠ true := by
    rw [honce]
    exact Bool.false_ne_true
  -- The run is compared with and without losses with one in which no wait is measurable.
  have hself := masks_run (repo.engine.deliversTo_self hcalm hpos) hcalm hmeasurable hcommute
    request
  have hlosing := masks_run (repo.engine.losing_deliversTo hcalm hpos) hcalm hmeasurable hcommute
    request
  have hplain := (hself.ends_alike session session
    ⟨rfl, huncancelled, huncancelled, hvalid⟩).resolve_left hover
  have hlossy := (hlosing.ends_alike session (session.losing losses)
    ⟨rfl, huncancelled, huncancelled, hvalid⟩).resolve_left hover
  refine ⟨hlossy.1.trans hplain.1.symm, ?_, hplain.2.lossy_valid, hlossy.2.lossy_valid⟩
  exact hlossy.2.view_eq.trans hplain.2.view_eq.symm

/-- An engine with the indices behind an alias and with every document. Only what is
done to the indices is known to it. -/
def aliased : Engine (List String) where
  respond call indices :=
    match call with
    | .documentExists _ => ({ outcome := .ok true }, indices)
    | .indexExists _ => ({ outcome := .ok true }, indices)
    | .getAlias _ => ({ outcome := .ok indices, duration := 5 }, indices)
    | .deleteByQuery .. => ({ outcome := .ok (), duration := 20 }, indices)
    | .deleteIndex index => ({ outcome := .ok () }, indices.filter (· ≠ index))
    | .deleteAlias _ => ({ outcome := .ok () }, indices)
    | _ => ({ outcome := .error (.unexpected "unknown call") }, indices)

theorem not_cancels_aliased (call : Engine.Call) (indices : List String) :
    (aliased.respond call indices).1.cancels = false := by
  cases call <;> rfl

theorem membersCommute_aliased : MembersCommute aliased := by
  intro index other _
  refine ⟨⟨fun _ => rfl, fun _ => rfl⟩, ⟨fun indices => ?_, fun _ => rfl⟩⟩
  simp only [aliased, List.filter_filter, Bool.and_comm]

def orders : Repository (List String) where
  options := { index := "orders", useRolloverAlias := true, retryTransientOnly := true }
  schema := ⟨"Order", []⟩
  retry := .ofAttempts 3 1000
  engine := aliased

def twoIndices : Session (EngineState (List String)) :=
  .start { engine := ["orders-000001", "orders-000002"] } none

def lost : Loss := { reason := "connection reset", duration := 3 }

/-- The second index takes longer to be emptied, the first one to be deleted. -/
def someLosses : Losses 3 where
  inOrder := [⟨[lost, lost], by decide⟩, ⟨[], by decide⟩, ⟨[lost], by decide⟩]
  emptying index := if index = "orders-000002" then ⟨[lost, lost], by decide⟩ else ⟨[], by decide⟩
  deleting index := if index = "orders-000001" then ⟨[lost], by decide⟩ else ⟨[], by decide⟩

/-- The indices behind an alias are deleted in spite of losses. -/
theorem run_losing_deleteIndex :
    ((Request.deleteIndex : Request Entry).run (orders.withEngine (aliased.losing 3))
      (twoIndices.losing someLosses)).1 = .ok () ∧
    ((Request.deleteIndex : Request Entry).run (orders.withEngine (aliased.losing 3))
      (twoIndices.losing someLosses)).2.state.engine.1 = [] := by
  have honce : orders.NeedsNoSecondAttempt (Request.deleteIndex : Request Entry) twoIndices := by
    unfold NeedsNoSecondAttempt
    decide +kernel
  have hplain : ((Request.deleteIndex : Request Entry).run orders twoIndices).1 = .ok () ∧
      ((Request.deleteIndex : Request Entry).run orders twoIndices).2.state.engine = [] := by
    decide +kernel
  obtain ⟨hresult, hstate, -⟩ := run_losing orders
    (RetryPolicy.isMeasurable_ofAttempts (by decide)) not_cancels_aliased membersCommute_aliased
    (Request.deleteIndex : Request Entry) twoIndices rfl rfl honce someLosses
  exact ⟨hresult.trans hplain.1, hstate.trans hplain.2⟩

/-- A repository with waits that grow by a unit. The one after 1001 attempts cannot be
measured. -/
def slowOrders : Repository (List String) where
  options := { index := "orders" }
  schema := ⟨"Order", []⟩
  retry := .ofAttempts 1002 (Nat.pow 2 64 - 1)
  engine := aliased

/-- All attempts but the last are lost. -/
def manyLosses : Losses 1002 where
  inOrder := [⟨List.replicate 1001 lost, by rw [List.length_replicate]; omega⟩]
  emptying _ := ⟨[], by decide⟩
  deleting _ := ⟨[], by decide⟩

/-- Losses are not made up for where the wait for another attempt cannot be measured. -/
theorem not_run_losing_unmeasurable :
    MembersCommute slowOrders.engine ∧
      (∀ call state, (slowOrders.engine.respond call state).1.cancels = false) ∧
      slowOrders.NeedsNoSecondAttempt (Request.documentExists "1" : Request Entry) twoIndices ∧
      ((Request.documentExists "1" : Request Entry).run slowOrders twoIndices).1 = .ok true ∧
      ((Request.documentExists "1" : Request Entry).run
        (slowOrders.withEngine (aliased.losing 1002)) (twoIndices.losing manyLosses)).2.overflowed =
          true ∧
      ((Request.documentExists "1" : Request Entry).run
        (slowOrders.withEngine (aliased.losing 1002)) (twoIndices.losing manyLosses)).1 ≠
          .ok true := by
  refine ⟨membersCommute_aliased, not_cancels_aliased, ?_⟩
  unfold NeedsNoSecondAttempt
  decide +kernel

end Repository

end SearchStore
