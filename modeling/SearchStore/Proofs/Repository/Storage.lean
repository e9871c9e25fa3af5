import SearchStore.Proofs.Bulk.Sending
import SearchStore.Proofs.Engine.Lines
import SearchStore.Proofs.Repository.Requests

/-!
A repository over an engine without faults is a map from ids to documents. What is
stored under an id is the written form of the document that the map has under it,
whether documents come one by one or in chunks; so whatever is asked one thing after
the other, all is answered, and as the map says.
-/

namespace SearchStore

variable {σ α β δ : Type}

/-- Whether every document can be written, and what is written is read as the same. -/
def Document.RoundTrips (δ : Type) [Document δ] : Prop :=
  ∀ document : δ, ∃ content, Document.encode document = .ok content ∧
    Document.decode content = .ok document

abbrev DocumentMap (δ : Type) := String → Option δ

namespace DocumentMap

def insert [Document δ] (map : DocumentMap δ) (document : δ) : DocumentMap δ := fun id =>
  if id = Document.id document then some document else map id

def remove (map : DocumentMap δ) (id : String) : DocumentMap δ := fun other =>
  if other = id then none else map other

end DocumentMap

namespace Repository

open SearchStore.Repository.Action

inductive Access (δ : Type) where
  | insert (document : δ)
  | bulkInsert (documents : List δ)
  | delete (id : String)
  | bulkDelete (ids : List String)
  | get (id : String)
  | documentExists (id : String)

namespace Access

def request : Access δ → Request δ
  | .insert document => .insert document
  | .bulkInsert documents => .bulkInsert documents
  | .delete id => .delete id
  | .bulkDelete ids => .bulkDelete ids
  | .get id => .get id
  | .documentExists id => .documentExists id

def answer (map : DocumentMap δ) : (access : Access δ) → access.request.Result
  | .insert _ | .bulkInsert _ | .delete _ | .bulkDelete _ => ()
  | .get id => map id
  | .documentExists id => (map id).isSome

/-- What becomes of the map. Many documents are inserted or deleted one by one. -/
def change [Document δ] (map : DocumentMap δ) : Access δ → DocumentMap δ
  | .insert document => map.insert document
  | .bulkInsert documents => documents.foldl .insert map
  | .delete id => map.remove id
  | .bulkDelete ids => ids.foldl .remove map
  | .get _ | .documentExists _ => map

end Access

/-- The stored documents are those of the map, each in its written form. -/
def Represents [Document δ] (repo : Repository σ) (stored : Documents) (map : DocumentMap δ) :
    Prop :=
  ∀ id, (map id = none ∧ stored (repo.ref id) = none) ∨
    ∃ document content, map id = some document ∧ Document.encode document = .ok content ∧
      stored (repo.ref id) = some content

section Represents

variable [Document δ] {repo : Repository σ} {stored : Documents} {map : DocumentMap δ}

theorem Represents.isSome_eq (h : repo.Represents stored map) (id : String) :
    (stored (repo.ref id)).isSome = (map id).isSome := by
  rcases h id with ⟨hmap, hstored⟩ | ⟨document, content, hmap, -, hstored⟩
  · rw [hmap, hstored]
    rfl
  · rw [hmap, hstored]
    rfl

theorem ref_eq_iff (repo : Repository σ) (id other : String) :
    repo.ref id = repo.ref other ↔ id = other := by
  simp [ref]

theorem Represents.put (h : repo.Represents stored map) {document : δ} {content : Json}
    (hencode : Document.encode document = .ok content) :
    repo.Represents ((Edit.put (repo.ref (Document.id document)) content).apply stored)
      (map.insert document) := by
  intro id
  simp only [Edit.apply, DocumentMap.insert, ref_eq_iff]
  by_cases hid : id = Document.id document
  · right
    simp only [hid, if_true]
    exact ⟨document, content, rfl, hencode, rfl⟩
  · simpa only [hid, if_false] using h id

theorem Represents.remove (h : repo.Represents stored map) (id : String) :
    repo.Represents ((Edit.remove (repo.ref id)).apply stored) (map.remove id) := by
  intro other
  simp only [Edit.apply, DocumentMap.remove, ref_eq_iff]
  by_cases hid : other = id
  · left
    simp [hid]
  · simpa only [hid, if_false] using h other

/-- To remove what is not there changes nothing. -/
theorem Represents.remove_of_absent (h : repo.Represents stored map) {id : String}
    (habsent : stored (repo.ref id) = none) : repo.Represents stored (map.remove id) := by
  intro other
  by_cases hid : other = id
  · subst hid
    left
    simp [DocumentMap.remove, habsent]
  · simpa only [DocumentMap.remove, hid, if_false] using h other

/-- Documents that are stored one after the other are inserted one after the other. -/
theorem Represents.putAll (h : repo.Represents stored map) (list : List δ) (contents : List Json)
    (hencoded : list.map Document.encode = contents.map Except.ok) :
    repo.Represents
      (Edit.applyAll stored
        (List.zipWith (fun document => Edit.put (repo.ref (Document.id document))) list contents))
      (list.foldl .insert map) := by
  induction list generalizing contents stored map with
  | nil =>
    rw [List.zipWith_nil_left]
    exact h
  | cons document rest ih =>
    obtain ⟨content, others, rfl, hcontent, hothers⟩ := List.map_eq_cons_iff.mp hencoded.symm
    exact ih (h.put hcontent.symm) others hothers.symm

theorem Represents.removeAll (h : repo.Represents stored map) (ids : List String) :
    repo.Represents (Edit.applyAll stored (ids.map fun id => .remove (repo.ref id)))
      (ids.foldl .remove map) := by
  induction ids generalizing stored map with
  | nil => exact h
  | cons id rest ih => exact ih (h.remove id)

end Represents

/-- How an operation that is not cancelled ends when it succeeds: with a value, and
with documents stored. -/
structure Completes (documents : σ → Documents) (session : Session (EngineState σ))
    (ended : Except RepositoryError α × Session (EngineState σ)) (a : α) (stored : Documents) :
    Prop where
  result_eq : ended.1 = .ok a
  documents_eq : documents ended.2.state.engine = stored
  cancelledAt_eq : ended.2.cancelledAt = none
  overflowed_eq : ended.2.overflowed = session.overflowed

section Completes

variable {documents : σ → Documents} {session : Session (EngineState σ)} {a : α} {b : β}
  {stored final : Documents} {action : Action σ α} {next : α → Action σ β}

theorem Completes.pure (a : α) (h : session.cancelledAt = none)
    (hstored : documents session.state.engine = stored) :
    Completes documents session ((Pure.pure a : Action σ α) session) a stored :=
  ⟨rfl, hstored, h, rfl⟩

theorem Completes.bind (h : Completes documents session (action session) a stored)
    (hnext : Completes documents (action session).2 (next a (action session).2) b final) :
    Completes documents session ((action >>= next) session) b final := by
  have hrun : action session = (.ok a, (action session).2) := Prod.ext h.result_eq rfl
  rw [run_bind_ok hrun]
  exact { hnext with overflowed_eq := hnext.overflowed_eq.trans h.overflowed_eq }

theorem Completes.outcome (h : Completes documents session (action session) a stored) :
    Completes documents session (Repository.outcome action session) (.ok a) stored :=
  { h with result_eq := congrArg Except.ok h.result_eq }

end Completes

section Store

variable {repo : Repository σ} {documents : σ → Documents}
  (hstore : repo.engine.IsStore documents)
include hstore

/-- A request of edits makes them, and none of them fails. -/
theorem answer_bulk {actions : List BulkAction} {edits : List Edit}
    (hedits : actions.map (Edit.ofAction? repo.index) = edits.map some) (state : σ) :
    ∃ response, repo.engine.answer (.bulk repo.index actions) state = .ok response ∧
      response.status = 200 ∧ response.failedItems = [] ∧
      documents (repo.engine.respond (.bulk repo.index actions) state).2 =
        Edit.applyAll (documents state) edits := by
  obtain ⟨response, hanswer, hstatus, hreported, hstored⟩ := hstore.bulk repo.index actions
    state edits (Edit.ofLines?_lines hedits)
  exact ⟨response, hanswer, hstatus, hreported.failedItems_eq_nil, hstored⟩

section Calls

variable {session : Session (EngineState σ)} (h : session.cancelledAt = none)
include h

/-- A call that is answered is not made again. -/
theorem completes_call {call : Engine.Call} {answer : call.Answer} {stored : Documents}
    (hanswer : repo.engine.answer call session.state.engine = .ok answer)
    (hstored : documents (repo.engine.respond call session.state.engine).2 = stored) :
    Completes documents session (repo.call call session) answer stored := by
  rw [call_of_answer repo h (hstore.not_cancels call session.state.engine) hanswer]
  exact ⟨rfl, hstored, h, rfl⟩

theorem completes_setRefreshInterval (interval : RefreshInterval) :
    Completes documents session (repo.setRefreshInterval repo.index interval session) ()
      (documents session.state.engine) :=
  have hsettings := hstore.putSettings repo.index _ session.state.engine
  completes_call hstore h hsettings.1 hsettings.2

theorem completes_sendChunk (chunk : Nat) {actions : List BulkAction} {edits : List Edit}
    (hedits : actions.map (Edit.ofAction? repo.index) = edits.map some) :
    Completes documents session (repo.sendChunk chunk actions session) none
      (Edit.applyAll (documents session.state.engine) edits) := by
  obtain ⟨response, hanswer, hstatus, hfailed, hstored⟩ :=
    answer_bulk hstore hedits session.state.engine
  have hrequest : (repo.chunkRequest (session.state, actions)).2 = .ok response := hanswer
  have houtcome : (repo.attemptChunk chunk session.now (session.state, actions)).1.outcome =
      .ok none := by
    rw [attemptChunk_outcome, hrequest, chunkResult_of_taken chunk actions hstatus hfailed]
  have hcalm : (repo.attemptChunk chunk session.now (session.state, actions)).1.cancels =
      false := by
    rw [attemptChunk_cancels]
    exact hstore.not_cancels (.bulk repo.index actions) session.state.engine
  have hsending : (session.sending actions).cancelledAt = none := h
  rw [sendChunk, ← Session.sending, RetryPolicy.execute_of_ok repo.retry repo.shouldRetry hsending
    hcalm houtcome]
  refine ⟨rfl, ?_, h, rfl⟩
  simp only [Session.sending, attemptChunk_state]
  exact hstored

end Calls

/-- Chunks one after the other make all their edits. -/
theorem completes_sendChunks (chunk : Nat) (pieces : List (List BulkAction)) {edits : List Edit}
    (hedits : pieces.flatten.map (Edit.ofAction? repo.index) = edits.map some)
    {session : Session (EngineState σ)} (h : session.cancelledAt = none) :
    Completes documents session (repo.sendChunks chunk pieces session) []
      (Edit.applyAll (documents session.state.engine) edits) := by
  induction pieces generalizing chunk edits session with
  | nil =>
    obtain rfl : edits = [] := by simpa using hedits.symm
    rw [run_sendChunks_nil]
    exact .pure [] h rfl
  | cons actions rest ih =>
    rw [List.flatten_cons, List.map_append] at hedits
    obtain ⟨first, second, rfl, hfirst, hsecond⟩ := List.map_eq_append_iff.mp hedits.symm
    have huncancelled : session.isCancelled = false := by
      rw [Session.isCancelled, h]
      rfl
    have hsent := completes_sendChunk hstore h chunk hfirst.symm
    have hrest := ih (chunk + 1) hsecond.symm hsent.cancelledAt_eq
    rw [run_sendChunks_cons_of_not_cancelled _ _ _ _ _ huncancelled, Edit.applyAll_append,
      ← hsent.documents_eq]
    exact hsent.outcome.bind (hrest.bind (.pure [] hrest.cancelledAt_eq hrest.documents_eq))

theorem completes_bulkWrite {actions : List BulkAction} {edits : List Edit}
    (hedits : actions.map (Edit.ofAction? repo.index) = edits.map some)
    {session : Session (EngineState σ)} (h : session.cancelledAt = none) :
    Completes documents session (repo.bulkWrite actions session) ()
      (Edit.applyAll (documents session.state.engine) edits) := by
  by_cases hempty : actions = []
  · subst hempty
    obtain rfl : edits = [] := by simpa using hedits.symm
    exact .pure () h rfl
  · rw [bulkWrite_eq repo hempty]
    have hpieces : (chunks repo.options.bulkChunkSize actions).flatten.map
        (Edit.ofAction? repo.index) = edits.map some := by rwa [flatten_chunks]
    have hdisabled := completes_setRefreshInterval hstore h .disabled
    have hsent := completes_sendChunks hstore 0 _ hpieces hdisabled.cancelledAt_eq
    have hrestored := completes_setRefreshInterval hstore hsent.cancelledAt_eq
      repo.restoredInterval
    rw [hdisabled.documents_eq] at hsent
    refine hdisabled.bind (hsent.bind ?_)
    rw [run_endLoad, hrestored.result_eq]
    exact { hrestored with
      result_eq := rfl
      documents_eq := hrestored.documents_eq.trans hsent.documents_eq }

/-- Documents that are deleted in one request are removed one by one; those that are
absent are no failure. -/
theorem completes_bulkDelete (ids : List String) {session : Session (EngineState σ)}
    (h : session.cancelledAt = none) :
    Completes documents session (repo.bulkDelete ids session) ()
      (Edit.applyAll (documents session.state.engine)
        (ids.map fun id => .remove (repo.ref id))) := by
  cases ids with
  | nil => exact .pure () h rfl
  | cons id rest =>
    have hedits : ((id :: rest).map BulkAction.delete).map (Edit.ofAction? repo.index) =
        ((id :: rest).map fun id => Edit.remove (repo.ref id)).map some := by
      simp only [List.map_map]
      rfl
    obtain ⟨response, hanswer, hstatus, hfailed, hstored⟩ :=
      answer_bulk hstore hedits session.state.engine
    have hcall := completes_call hstore h hanswer hstored
    refine hcall.bind ?_
    have hsuccess : isSuccessStatus response.status = true := by rw [hstatus]; rfl
    simp only [hsuccess, hfailed]
    exact .pure () hcall.cancelledAt_eq hcall.documents_eq

section Accesses

variable [Document δ] (hlaw : Document.RoundTrips δ) {session : Session (EngineState σ)}
  (h : session.cancelledAt = none) {map : DocumentMap δ}
  (hmap : repo.Represents (documents session.state.engine) map)
include hlaw h hmap

theorem completes_insert (document : δ) :
    ∃ stored, Completes documents session (repo.insert document session) () stored ∧
      repo.Represents stored (map.insert document) := by
  obtain ⟨content, hencode, -⟩ := hlaw document
  have hencoded : ofExcept (encodeDocument document) session = (.ok content, session) := by
    rw [encodeDocument, hencode]
    rfl
  obtain ⟨hanswer, hstored⟩ := hstore.indexDocument (repo.ref (Document.id document)) content
    session.state.engine
  have hcall := completes_call hstore h hanswer hstored
  refine ⟨_, ?_, hmap.put hencode⟩
  rw [insert, run_bind_ok hencoded]
  exact hcall

theorem completes_bulkInsert (list : List δ) :
    ∃ stored, Completes documents session (repo.bulkInsert list session) () stored ∧
      repo.Represents stored (list.foldl .insert map) := by
  rw [bulkInsert_eq]
  rcases run_load repo (fun document => BulkAction.index (Document.id document)) list session with
    ⟨document, -, reason, hreason, -⟩ | ⟨contents, hencoded, hrun⟩
  · obtain ⟨content, hencode, -⟩ := hlaw document
    simp [hencode] at hreason
  · have hedits : (List.zipWith (fun document => BulkAction.index (Document.id document)) list
        contents).map (Edit.ofAction? repo.index) =
        (List.zipWith (fun document => Edit.put (repo.ref (Document.id document))) list
          contents).map some := by
      simp only [List.map_zipWith]
      rfl
    rw [hrun]
    exact ⟨_, completes_bulkWrite hstore hedits h, hmap.putAll list contents hencoded⟩

omit hlaw in
theorem completes_documentExists (id : String) :
    Completes documents session (repo.documentExists id session) (map id).isSome
      (documents session.state.engine) := by
  obtain ⟨hanswer, hstored⟩ := hstore.documentExists (repo.ref id) session.state.engine
  rw [hmap.isSome_eq] at hanswer
  exact completes_call hstore h hanswer hstored

omit hlaw in
theorem completes_delete (id : String) :
    ∃ stored, Completes documents session (repo.delete id session) () stored ∧
      repo.Represents stored (map.remove id) := by
  have hexists := completes_documentExists hstore h hmap id
  cases hfound : (map id).isSome with
  | false =>
    have habsent : documents session.state.engine (repo.ref id) = none := by
      rw [← Option.isNone_iff_eq_none, ← Option.not_isSome, hmap.isSome_eq, hfound]
      rfl
    rw [hfound] at hexists
    exact ⟨_, hexists.bind (.pure () hexists.cancelledAt_eq hexists.documents_eq),
      hmap.remove_of_absent habsent⟩
  | true =>
    have hpresent : (documents (repo.documentExists id session).2.state.engine
        (repo.ref id)).isSome := by
      rw [hexists.documents_eq, hmap.isSome_eq, hfound]
    obtain ⟨hanswer, hstored⟩ := hstore.deleteDocument (repo.ref id) _ hpresent
    rw [hfound] at hexists
    have hdeleted := completes_call hstore hexists.cancelledAt_eq hanswer hstored
    rw [hexists.documents_eq] at hdeleted
    exact ⟨_, hexists.bind hdeleted, hmap.remove id⟩

/-- What is read is the document that was written. -/
theorem completes_get (id : String) :
    Completes documents session (repo.get id session) (map id)
      (documents session.state.engine) := by
  obtain ⟨hit, hanswer, hshows, hstored⟩ := hstore.getDocument (repo.ref id) session.state.engine
  have hcall := completes_call hstore h hanswer hstored
  refine hcall.bind ?_
  rcases hmap id with ⟨habsent, hnone⟩ | ⟨document, content, hpresent, hencode, hsome⟩
  · rw [hnone] at hshows
    rw [habsent]
    cases hit with
    | none => exact .pure none hcall.cancelledAt_eq hcall.documents_eq
    | some hit =>
      have hfound : (hit.get? "found").bind Json.asBool? = some false := hshows
      simp only [hfound, if_true]
      exact .pure none hcall.cancelledAt_eq hcall.documents_eq
  · rw [hsome] at hshows
    rw [hpresent]
    cases hit with
    | none => exact hshows.elim
    | some hit =>
      obtain ⟨hsource, hfound⟩ := hshows
      obtain ⟨written, hwritten, hdecode⟩ := hlaw document
      obtain rfl : content = written := Except.ok.inj (hencode.symm.trans hwritten)
      have hdecoded : ofExcept (decodeDocument Document.decode (sourceOf hit))
          (repo.call (.getDocument (repo.ref id)) session).2 =
            (.ok document, (repo.call (.getDocument (repo.ref id)) session).2) := by
        rw [sourceOf, hsource, Option.getD_some, decodeDocument, hdecode]
        rfl
      simp only [hfound, if_false]
      rw [run_bind_ok hdecoded]
      exact .pure (some document) hcall.cancelledAt_eq hcall.documents_eq

/-- Whatever is asked succeeds, and goes on as with the map. -/
theorem completes_access (access : Access δ) :
    ∃ stored, Completes documents session (access.request.run repo session) (access.answer map)
        stored ∧
      repo.Represents stored (access.change map) := by
  cases access with
  | insert document => exact completes_insert hstore hlaw h hmap document
  | bulkInsert list => exact completes_bulkInsert hstore hlaw h hmap list
  | delete id => exact completes_delete hstore h hmap id
  | bulkDelete ids => exact ⟨_, completes_bulkDelete hstore ids h, hmap.removeAll ids⟩
  | get id => exact ⟨_, completes_get hstore hlaw h hmap id, hmap⟩
  | documentExists id => exact ⟨_, completes_documentExists hstore h hmap id, hmap⟩

end Accesses

end Store

def afterAll [Document δ] (repo : Repository σ) (session : Session (EngineState σ))
    (history : List (Access δ)) : Session (EngineState σ) :=
  history.foldl (fun session access => (access.request.run repo session).2) session

/-- After any history the stored documents are those of the map after it. -/
theorem represents_afterAll [Document δ] {repo : Repository σ} {documents : σ → Documents}
    (hstore : repo.engine.IsStore documents) (hlaw : Document.RoundTrips δ)
    {session : Session (EngineState σ)} (h : session.cancelledAt = none) {map : DocumentMap δ}
    (hmap : repo.Represents (documents session.state.engine) map) (history : List (Access δ)) :
    (repo.afterAll session history).cancelledAt = none ∧
      (repo.afterAll session history).overflowed = session.overflowed ∧
      repo.Represents (documents (repo.afterAll session history).state.engine)
        (history.foldl Access.change map) := by
  induction history generalizing session map with
  | nil => exact ⟨h, rfl, hmap⟩
  | cons access rest ih =>
    obtain ⟨stored, hcompletes, hnext⟩ := completes_access hstore hlaw h hmap access
    rw [← hcompletes.documents_eq] at hnext
    obtain ⟨huncancelled, hvalid, hlast⟩ := ih hcompletes.cancelledAt_eq hnext
    exact ⟨huncancelled, hvalid.trans hcompletes.overflowed_eq, hlast⟩

structure Note where
  id : String
  text : String
deriving DecidableEq

instance : Document Note where
  id := Note.id
  encode note := .ok (.obj [("id", .str note.id), ("text", .str note.text)])
  decode content :=
    match (content.get? "id").bind Json.asString?, (content.get? "text").bind Json.asString? with
    | some id, some text => .ok ⟨id, text⟩
    | _, _ => .error "not a note"

theorem roundTrips_note : Document.RoundTrips Note :=
  fun _ => ⟨_, rfl, rfl⟩

def notes : Repository Documents where
  options := { index := "notes", bulkChunkSize := 2 }
  schema := ⟨"Note", []⟩
  retry := .ofAttempts 3
  engine := .shelf

def emptyShelf : Session (EngineState Documents) := .start { engine := fun _ => none } none

/-- An id comes twice in a load, in one chunk and in the next; others are deleted when
they are absent. -/
def noteHistory : List (Access Note) :=
  [.bulkInsert [⟨"a", "first"⟩, ⟨"b", "second"⟩, ⟨"a", "third"⟩], .delete "b", .delete "b",
    .bulkDelete ["b", "c", "c"], .insert ⟨"d", "fourth"⟩]

/-- A repository refines a map from ids to documents. -/
theorem accesses_refine_map [Document δ] (repo : Repository σ) (documents : σ → Documents)
    (hstore : repo.engine.IsStore documents) (hlaw : Document.RoundTrips δ)
    (session : Session (EngineState σ)) (huncancelled : session.cancelledAt = none)
    (map : DocumentMap δ) (hmap : repo.Represents (documents session.state.engine) map)
    (history : List (Access δ)) (access : Access δ) :
    (access.request.run repo (repo.afterAll session history)).1 =
        .ok (access.answer (history.foldl Access.change map)) ∧
      (access.request.run repo (repo.afterAll session history)).2.overflowed =
        session.overflowed := by
  obtain ⟨hlater, hvalid, hrepresents⟩ :=
    represents_afterAll hstore hlaw huncancelled hmap history
  obtain ⟨stored, hcompletes, -⟩ := completes_access hstore hlaw hlater hrepresents access
  exact ⟨hcompletes.result_eq, hcompletes.overflowed_eq.trans hvalid⟩

/-- What was loaded last under an id is read. -/
theorem accesses_refine_map_notes :
    Represents (δ := Note) notes emptyShelf.state.engine (fun _ => none) ∧
      ((Access.get "a" : Access Note).request.run notes
        (notes.afterAll emptyShelf noteHistory)).1 = .ok (some ⟨"a", "third"⟩) ∧
      ((Access.documentExists "b" : Access Note).request.run notes
        (notes.afterAll emptyShelf noteHistory)).1 = .ok false := by
  have hempty : Represents (δ := Note) notes emptyShelf.state.engine (fun _ => none) :=
    fun _ => .inl ⟨rfl, rfl⟩
  have hanswers := accesses_refine_map notes id Engine.isStore_shelf roundTrips_note emptyShelf rfl
    _ hempty noteHistory
  exact ⟨hempty, (hanswers (.get "a")).1, (hanswers (.documentExists "b")).1⟩

end Repository

end SearchStore
