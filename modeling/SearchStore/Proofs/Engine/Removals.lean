import SearchStore.Proofs.Engine.Lines

/-!
Deletions in bulk, document by document. A document is removed, or it was absent already,
or its deletion is rejected and it is left in place. What is not rejected is absent
afterwards, whatever becomes of the others and however often a document is named.
-/

namespace SearchStore

variable {σ : Type}

/-- Whether the engine did not do what was asked, and gives a reason. -/
def BulkItem.isRejected (item : BulkItem) : Bool :=
  !isSuccessStatus item.status && item.reason.isSome

inductive Removal (ref : DocumentRef) : Documents → BulkItem → Documents → Prop
  | removed {documents : Documents} {item : BulkItem} (hid : item.id = ref.id)
      (hthere : documents ref ≠ none) (hstatus : isSuccessStatus item.status = true) :
      Removal ref documents item ((Edit.remove ref).apply documents)
  | absent {documents : Documents} {item : BulkItem} (hid : item.id = ref.id)
      (hgone : documents ref = none) (hstatus : item.status = 404) (hreason : item.reason = none) :
      Removal ref documents item documents
  | rejected {documents : Documents} {item : BulkItem} (hid : item.id = ref.id)
      (hstatus : isSuccessStatus item.status = false) (hreason : item.reason ≠ none) :
      Removal ref documents item documents

namespace Removal

variable {ref : DocumentRef} {documents after : Documents} {item : BulkItem}

theorem id_eq (h : Removal ref documents item after) : item.id = ref.id := by
  cases h with
  | removed hid => exact hid
  | absent hid => exact hid
  | rejected hid => exact hid

/-- Nothing but a rejection counts as a failure. -/
theorem isSuccess_eq (h : Removal ref documents item after) :
    item.isSuccess = !item.isRejected := by
  cases h with
  | removed _ _ hstatus => simp [BulkItem.isSuccess, BulkItem.isRejected, hstatus]
  | absent _ _ hstatus hreason =>
    simp [BulkItem.isSuccess, BulkItem.isAbsent, BulkItem.isRejected, hstatus, hreason]
  | rejected _ hstatus hreason =>
    simp [BulkItem.isSuccess, BulkItem.isAbsent, BulkItem.isRejected, hstatus, hreason]

theorem absent_of_not_rejected (h : Removal ref documents item after)
    (haccepted : item.isRejected = false) : after ref = none := by
  cases h with
  | removed => exact if_pos rfl
  | absent _ hgone => exact hgone
  | rejected _ hstatus hreason =>
    simp [BulkItem.isRejected, hstatus, hreason] at haccepted

/-- What is absent stays so. -/
theorem absent_of_absent (h : Removal ref documents item after) {other : DocumentRef}
    (hgone : documents other = none) : after other = none := by
  cases h with
  | removed =>
    simp only [Edit.apply]
    split
    · rfl
    · exact hgone
  | absent => exact hgone
  | rejected => exact hgone

end Removal

inductive Removals : List DocumentRef → Documents → List BulkItem → Documents → Prop
  | nil (documents : Documents) : Removals [] documents [] documents
  | cons {ref : DocumentRef} {refs : List DocumentRef} {documents middle after : Documents}
      {item : BulkItem} {items : List BulkItem} (hfirst : Removal ref documents item middle)
      (hrest : Removals refs middle items after) :
      Removals (ref :: refs) documents (item :: items) after

namespace Removals

variable {refs : List DocumentRef} {documents after : Documents} {items : List BulkItem}

theorem map_id (h : Removals refs documents items after) :
    items.map (·.id) = refs.map (·.id) := by
  induction h with
  | nil => rfl
  | cons hfirst _ ih => rw [List.map_cons, List.map_cons, hfirst.id_eq, ih]

theorem filter_not_isSuccess (h : Removals refs documents items after) :
    items.filter (!·.isSuccess) = items.filter (·.isRejected) := by
  induction h with
  | nil => rfl
  | cons hfirst _ ih =>
    rw [List.filter_cons, List.filter_cons, hfirst.isSuccess_eq, Bool.not_not, ih]

theorem absent_of_absent (h : Removals refs documents items after) {other : DocumentRef}
    (hgone : documents other = none) : after other = none := by
  induction h with
  | nil => exact hgone
  | cons hfirst _ ih => exact ih (hfirst.absent_of_absent hgone)

/-- If nothing is rejected, nothing is left. -/
theorem absent (h : Removals refs documents items after)
    (haccepted : ∀ item ∈ items, item.isRejected = false) : ∀ ref ∈ refs, after ref = none := by
  induction h with
  | nil => exact fun _ href => absurd href List.not_mem_nil
  | cons hfirst hrest ih =>
    obtain ⟨hitem, hitems⟩ := List.forall_mem_cons.mp haccepted
    exact List.forall_mem_cons.mpr
      ⟨hrest.absent_of_absent (hfirst.absent_of_not_rejected hitem), ih hitems⟩

end Removals

/-- An engine that tells of each document what came of its deletion, over a connection on
which requests and answers get lost. What a lost request did is left open, and so is
what an engine does that refuses a request as a whole. -/
structure Engine.RemovesInBulk (engine : Engine σ) (documents : σ → Documents) (index : String) :
    Prop where
  answered : ∀ (ids : List String) state response,
    engine.answer (.bulk index (ids.map .delete)) state = .ok response →
    isSuccessStatus response.status = true →
      Removals (ids.map (.of index)) (documents state) response.items
        (documents (engine.respond (.bulk index (ids.map .delete)) state).2)
  lost : ∀ (ids : List String) state error,
    engine.answer (.bulk index (ids.map .delete)) state = .error error →
      ∃ reason, error = .transport reason

/-- The item for the deletion of a document, which may be rejected, and the documents
after it. -/
def remove (rejected : List String) (documents : Documents) (ref : DocumentRef) :
    BulkItem × Documents :=
  if ref.id ∈ rejected then (⟨ref.id, 429, some "too many requests"⟩, documents)
  else if (documents ref).isSome then (⟨ref.id, 200, none⟩, (Edit.remove ref).apply documents)
  else (⟨ref.id, 404, none⟩, documents)

def removeAll (rejected : List String) (documents : Documents) :
    List DocumentRef → List BulkItem × Documents
  | [] => ([], documents)
  | ref :: refs =>
    let (item, middle) := remove rejected documents ref
    let (items, after) := removeAll rejected middle refs
    (item :: items, after)

theorem removal_remove (rejected : List String) (documents : Documents) (ref : DocumentRef) :
    Removal ref documents (remove rejected documents ref).1 (remove rejected documents ref).2 := by
  unfold remove
  split
  · exact .rejected rfl rfl (Option.some_ne_none _)
  · split
    · next hthere => exact .removed rfl (Option.isSome_iff_ne_none.mp hthere) rfl
    · next hgone => exact .absent rfl (by simpa using hgone) rfl rfl

theorem removals_removeAll (rejected : List String) (documents : Documents)
    (refs : List DocumentRef) :
    Removals refs documents (removeAll rejected documents refs).1
      (removeAll rejected documents refs).2 := by
  induction refs generalizing documents with
  | nil => exact .nil documents
  | cons ref refs ih => exact .cons (removal_remove rejected documents ref) (ih _)

/-- What becomes of a request: it gets lost, or the answer to it does, or it is answered.
If it arrives, the documents with some ids are not deleted. -/
inductive RequestFate where
  | requestLost
  | answerLost (rejected : List String)
  | answered (rejected : List String)

/-- An engine that deletes documents, with what becomes of the requests to it in turn. It
takes ten milliseconds to answer. -/
def Engine.removing : Engine (Documents × List RequestFate) where
  respond call state :=
    match call with
    | .bulk index actions =>
      let refs := actions.map fun action => DocumentRef.of index action.id
      match state.2.headD (.answered []) with
      | .requestLost =>
        ({ outcome := .error (.transport "connection reset") }, (state.1, state.2.tail))
      | .answerLost rejected =>
        ({ outcome := .error (.transport "connection reset") },
          ((removeAll rejected state.1 refs).2, state.2.tail))
      | .answered rejected =>
        ({ outcome := .ok { status := 200, items := (removeAll rejected state.1 refs).1 }
           duration := 10 },
          ((removeAll rejected state.1 refs).2, state.2.tail))
    | _ => ({ outcome := .error (.unexpected "unknown call") }, state)

theorem Engine.removesInBulk_removing (index : String) :
    removing.RemovesInBulk Prod.fst index where
  answered ids state response hanswer _ := by
    have hrefs : (ids.map BulkAction.delete).map (fun action => DocumentRef.of index action.id) =
        ids.map (.of index) := by
      rw [List.map_map]
      rfl
    simp only [Engine.answer, removing, hrefs] at hanswer ⊢
    cases hfate : state.2.headD (.answered []) with
    | requestLost =>
      rw [hfate] at hanswer
      cases hanswer
    | answerLost rejected =>
      rw [hfate] at hanswer
      cases hanswer
    | answered rejected =>
      rw [hfate] at hanswer
      obtain rfl := Except.ok.inj hanswer
      exact removals_removeAll rejected state.1 _
  lost ids state error hanswer := by
    simp only [Engine.answer, removing] at hanswer
    cases hfate : state.2.headD (.answered []) with
    | answered rejected =>
      rw [hfate] at hanswer
      cases hanswer
    | requestLost =>
      rw [hfate] at hanswer
      exact ⟨_, (Except.error.inj hanswer).symm⟩
    | answerLost rejected =>
      rw [hfate] at hanswer
      exact ⟨_, (Except.error.inj hanswer).symm⟩

end SearchStore
