import SearchStore.Proofs.Engine.Documents
import SearchStore.Proofs.Repository.Exchange

/-!
Bulk requests as an engine reads them, line by line: a line that names a document
and says what to do to it, followed by the content if one is to be stored. An engine
without faults keeps documents by index, routing and id, does what the lines say in
their order, and reports on each of them.
-/

namespace SearchStore

variable {σ : Type}

inductive Edit where
  | put (ref : DocumentRef) (content : Json)
  | remove (ref : DocumentRef)

namespace Edit

def ref : Edit → DocumentRef
  | .put ref _ | .remove ref => ref

def apply (documents : Documents) : Edit → Documents
  | .put ref content => fun other => if other = ref then some content else documents other
  | .remove ref => fun other => if other = ref then none else documents other

def applyAll (documents : Documents) (edits : List Edit) : Documents := edits.foldl apply documents

theorem applyAll_append (documents : Documents) (first second : List Edit) :
    applyAll documents (first ++ second) = applyAll (applyAll documents first) second :=
  List.foldl_append

def target? (named : Json) : Option DocumentRef := do
  return {
    index := ← (named.get? "_index").bind Json.asString?
    id := ← (named.get? "_id").bind Json.asString?
    routing := ← (named.get? "routing").bind Json.asString?
  }

/-- Reads lines that store or delete documents. -/
def ofLines? : List Json → Option (List Edit)
  | [] => some []
  | .obj [(kind, named)] :: rest => do
    let ref ← target? named
    if kind = "delete" then return .remove ref :: (← ofLines? rest)
    else if kind = "index" then
      match rest with
      | [] => none
      | content :: rest => return .put ref content :: (← ofLines? rest)
    else none
  | _ => none

/-- The edit that an action stands for. Merging is not among them. -/
def ofAction? (index : String) : BulkAction → Option Edit
  | .index id content => some (.put (.of index id) content)
  | .delete id => some (.remove (.of index id))
  | .update .. => none

theorem target?_header (index id : String) :
    target? (.obj [("_index", .str index), ("_id", .str id), ("routing", .str id)]) =
      some (.of index id) := by
  simp [target?, Json.get?, List.lookup_cons, Json.asString?, DocumentRef.of]

/-- The lines of an action say what it stands for. -/
theorem ofLines?_lines_append {index : String} {action : BulkAction} {edit : Edit}
    (h : ofAction? index action = some edit) (rest : List Json) :
    ofLines? (action.lines index ++ rest) = (ofLines? rest).map (edit :: ·) := by
  cases action with
  | index id content =>
    cases h
    simp only [BulkAction.lines, BulkAction.header, List.cons_append, List.nil_append, ofLines?,
      target?_header]
    cases ofLines? rest <;> rfl
  | update id content => cases h
  | delete id =>
    cases h
    simp only [BulkAction.lines, BulkAction.header, List.cons_append, List.nil_append, ofLines?,
      target?_header]
    cases ofLines? rest <;> rfl

/-- The lines of a request are read as the edits that its actions stand for. -/
theorem ofLines?_lines {index : String} {actions : List BulkAction} {edits : List Edit}
    (h : actions.map (ofAction? index) = edits.map some) :
    ofLines? (actions.flatMap (·.lines index)) = some edits := by
  induction actions generalizing edits with
  | nil =>
    obtain rfl : edits = [] := by simpa using h.symm
    rfl
  | cons action rest ih =>
    obtain ⟨edit, others, rfl, hedit, hothers⟩ := List.map_eq_cons_iff.mp h.symm
    rw [List.flatMap_cons, ofLines?_lines_append hedit.symm, ih hothers.symm]
    rfl

/-- An item that reports on an edit of stored documents. To delete an absent document
is no fault, and no reason is given. -/
def IsReported (documents : Documents) (edit : Edit) (item : BulkItem) : Prop :=
  item.id = edit.ref.id ∧
    match edit with
    | .put .. => isSuccessStatus item.status = true
    | .remove ref =>
      if (documents ref).isSome then isSuccessStatus item.status = true
      else item.status = 404 ∧ item.reason = none

inductive AllReported : Documents → List Edit → List BulkItem → Prop
  | nil (documents : Documents) : AllReported documents [] []
  | cons {documents : Documents} {edit : Edit} {edits : List Edit} {item : BulkItem}
      {items : List BulkItem} (hitem : edit.IsReported documents item)
      (hitems : AllReported (edit.apply documents) edits items) :
      AllReported documents (edit :: edits) (item :: items)

theorem IsReported.isSuccess {documents : Documents} {edit : Edit} {item : BulkItem}
    (h : edit.IsReported documents item) : item.isSuccess = true := by
  obtain ⟨-, hstatus⟩ := h
  cases edit with
  | put ref content => exact Bool.or_eq_true_iff.mpr (.inl hstatus)
  | remove ref =>
    simp only at hstatus
    split at hstatus
    · exact Bool.or_eq_true_iff.mpr (.inl hstatus)
    · simp [BulkItem.isSuccess, BulkItem.isAbsent, hstatus]

/-- No item of a report has failed. -/
theorem AllReported.failedItems_eq_nil {documents : Documents} {edits : List Edit}
    {response : BulkResponse} (h : AllReported documents edits response.items) :
    response.failedItems = [] := by
  obtain ⟨status, items, reason⟩ := response
  simp only [BulkResponse.failedItems] at h ⊢
  induction h with
  | nil => rfl
  | cons hitem _ ih => simpa [hitem.isSuccess] using ih

end Edit

/-- What is given for a document: its content as the source, or that there is none. -/
def ShowsDocument : Option Json → Option Json → Prop
  | some content, some hit =>
    hit.get? "_source" = some content ∧ (hit.get? "found").bind Json.asBool? ≠ some false
  | some _, none => False
  | none, some hit => (hit.get? "found").bind Json.asBool? = some false
  | none, none => True

/-- An engine without faults: every call that a repository makes of it to read and write
documents is answered, and what is stored is what was written. -/
structure Engine.IsStore (engine : Engine σ) (documents : σ → Documents) : Prop where
  not_cancels : ∀ call state, (engine.respond call state).1.cancels = false
  putSettings : ∀ index settings state,
    engine.answer (.putSettings index settings) state = .ok () ∧
      documents (engine.respond (.putSettings index settings) state).2 = documents state
  documentExists : ∀ ref state,
    engine.answer (.documentExists ref) state = .ok (documents state ref).isSome ∧
      documents (engine.respond (.documentExists ref) state).2 = documents state
  getDocument : ∀ ref state, ∃ hit,
    engine.answer (.getDocument ref) state = .ok hit ∧ ShowsDocument (documents state ref) hit ∧
      documents (engine.respond (.getDocument ref) state).2 = documents state
  indexDocument : ∀ ref content state,
    engine.answer (.indexDocument ref content) state = .ok () ∧
      documents (engine.respond (.indexDocument ref content) state).2 =
        (Edit.put ref content).apply (documents state)
  deleteDocument : ∀ ref state, (documents state ref).isSome →
    engine.answer (.deleteDocument ref) state = .ok () ∧
      documents (engine.respond (.deleteDocument ref) state).2 =
        (Edit.remove ref).apply (documents state)
  bulk : ∀ index actions state edits,
    Edit.ofLines? (actions.flatMap (·.lines index)) = some edits → ∃ response,
      engine.answer (.bulk index actions) state = .ok response ∧ response.status = 200 ∧
        Edit.AllReported (documents state) edits response.items ∧
        documents (engine.respond (.bulk index actions) state).2 =
          Edit.applyAll (documents state) edits

def Edit.report (documents : Documents) : Edit → BulkItem
  | .put ref _ => { id := ref.id, status := if (documents ref).isSome then 200 else 201 }
  | .remove ref => { id := ref.id, status := if (documents ref).isSome then 200 else 404 }

def Edit.reportAll (documents : Documents) : List Edit → List BulkItem
  | [] => []
  | edit :: edits => edit.report documents :: reportAll (edit.apply documents) edits

/-- An engine that keeps its documents and nothing else. -/
def Engine.shelf : Engine Documents where
  respond call stored :=
    match call with
    | .putSettings .. => ({ outcome := .ok () }, stored)
    | .documentExists ref => ({ outcome := .ok (stored ref).isSome, duration := 5 }, stored)
    | .getDocument ref =>
      ({ outcome := .ok ((stored ref).map fun content =>
          .obj [("_id", .str ref.id), ("found", .bool true), ("_source", content)]) }, stored)
    | .indexDocument ref content =>
      ({ outcome := .ok (), duration := 10 }, (Edit.put ref content).apply stored)
    | .deleteDocument ref =>
      if (stored ref).isSome then ({ outcome := .ok () }, (Edit.remove ref).apply stored)
      else ({ outcome := .error (.response 404 "not_found") }, stored)
    | .bulk index actions =>
      match Edit.ofLines? (actions.flatMap (·.lines index)) with
      | some edits =>
        ({ outcome := .ok { status := 200, items := Edit.reportAll stored edits } },
          Edit.applyAll stored edits)
      | none => ({ outcome := .ok { status := 400, reason := some "malformed" } }, stored)
    | _ => ({ outcome := .error (.unexpected "unknown call") }, stored)

theorem Edit.allReported_reportAll (documents : Documents) (edits : List Edit) :
    AllReported documents edits (reportAll documents edits) := by
  induction edits generalizing documents with
  | nil => exact .nil documents
  | cons edit rest ih =>
    refine .cons ⟨by cases edit <;> rfl, ?_⟩ (ih _)
    cases edit with
    | put ref content => cases hstored : documents ref <;> simp [report, hstored, isSuccessStatus]
    | remove ref => cases hstored : documents ref <;> simp [report, hstored, isSuccessStatus]

theorem Engine.isStore_shelf : shelf.IsStore id where
  not_cancels call stored := by
    cases call with
    | deleteDocument ref =>
      simp only [shelf]
      split <;> rfl
    | bulk index actions =>
      simp only [shelf]
      split <;> rfl
    | _ => rfl
  putSettings _ _ _ := ⟨rfl, rfl⟩
  documentExists _ _ := ⟨rfl, rfl⟩
  getDocument ref stored := by
    refine ⟨_, rfl, ?_, rfl⟩
    simp only [id]
    cases stored ref with
    | none => trivial
    | some content => exact ⟨rfl, by simp [Json.get?, List.lookup_cons, Json.asBool?]⟩
  indexDocument _ _ _ := ⟨rfl, rfl⟩
  deleteDocument ref stored h := by
    simp only [id] at h
    simp [Engine.answer, shelf, h]
  bulk index actions stored edits h := by
    have hanswer : shelf.respond (.bulk index actions) stored =
        ({ outcome := .ok { status := 200, items := Edit.reportAll stored edits } },
          Edit.applyAll stored edits) := by
      simp only [shelf, h]
    rw [Engine.answer, hanswer]
    exact ⟨_, rfl, rfl, Edit.allReported_reportAll stored edits, rfl⟩

end SearchStore
