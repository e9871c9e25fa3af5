import SearchStore.Engine

/-!
Documents as an engine keeps them, and lists of writes to them. What a list of
writes leaves under an id is its last write to that id, so a list may be replaced
by any other that agrees with it on every id. An engine that stores what it
accepts may refuse some writes of a request and may lose requests and answers.
-/

namespace SearchStore

abbrev Documents := DocumentRef → Option Json

def DocumentRef.of (index id : String) : DocumentRef := ⟨index, id, id⟩

abbrev Writes := List (String × Json)

namespace Writes

def under (writes : Writes) (id : String) : Writes := writes.filter fun write => write.1 = id

def last? (writes : Writes) (id : String) : Option Json :=
  ((writes.under id).getLast?).map Prod.snd

def store (index : String) (writes : Writes) (documents : Documents) : Documents :=
  writes.foldl (fun stored write ref =>
    if ref = .of index write.1 then some write.2 else stored ref) documents

def actions (writes : Writes) : List BulkAction :=
  writes.map fun write => .index write.1 write.2

def ofActions (actions : List BulkAction) : Writes :=
  actions.filterMap fun
    | .index id content => some (id, content)
    | _ => none

theorem ofActions_actions (writes : Writes) : ofActions writes.actions = writes := by
  induction writes with
  | nil => rfl
  | cons write rest ih =>
    rw [actions, List.map_cons, ofActions, List.filterMap_cons]
    exact congrArg (write :: ·) ih

variable {index : String}

theorem store_append (first second : Writes) (documents : Documents) :
    store index (first ++ second) documents = store index second (store index first documents) :=
  List.foldl_append

theorem last?_cons (write : String × Json) (writes : Writes) (id : String) :
    last? (write :: writes) id =
      (last? writes id).or (if write.1 = id then some write.2 else none) := by
  by_cases h : write.1 = id
  · cases hrest : (under writes id).getLast? with
    | none => simp_all [last?, under, List.getLast?_cons]
    | some found => simp_all [last?, under, List.getLast?_cons]
  · simp [last?, under, h]

/-- What is stored under an id is the last write to it, if there is one. -/
theorem store_of (writes : Writes) (documents : Documents) (id : String) :
    store index writes documents (.of index id) =
      (writes.last? id).or (documents (.of index id)) := by
  induction writes generalizing documents with
  | nil => rfl
  | cons write rest ih =>
    have hhead : store index (write :: rest) documents =
        store index rest (store index [write] documents) := rfl
    rw [hhead, ih, last?_cons]
    by_cases h : write.1 = id
    · subst h
      cases last? rest write.1 <;> simp [store]
    · have hne : DocumentRef.of index id ≠ .of index write.1 := by
        simpa [DocumentRef.of, eq_comm] using h
      cases last? rest id <;> simp [store, h, hne]

/-- Documents under other ids are left alone. -/
theorem store_of_ne (writes : Writes) (documents : Documents) (ref : DocumentRef)
    (h : ∀ write ∈ writes, ref ≠ .of index write.1) :
    store index writes documents ref = documents ref := by
  induction writes generalizing documents with
  | nil => rfl
  | cons write rest ih =>
    have hhead : store index (write :: rest) documents =
        store index rest (store index [write] documents) := rfl
    rw [hhead, ih _ fun w hw => h w (List.mem_cons_of_mem _ hw)]
    simp [store, h write List.mem_cons_self]

theorem last?_eq_none_iff (writes : Writes) (id : String) :
    writes.last? id = none ↔ ∀ write ∈ writes, write.1 ≠ id := by
  simp [last?, under]

theorem last?_congr {writes others : Writes} {id : String}
    (h : writes.under id = others.under id) : writes.last? id = others.last? id := by
  rw [last?, h, last?]

/-- A write that no later one to its id follows is the last one. -/
theorem last?_of_split (earlier later : Writes) (id : String) (content : Json)
    (h : ∀ write ∈ later, write.1 ≠ id) :
    last? (earlier ++ (id, content) :: later) id = some content := by
  have hlater : under later id = [] := by simpa [under] using h
  have hsplit : under (earlier ++ (id, content) :: later) id =
      under earlier id ++ [(id, content)] := by
    simp only [under, List.filter_append, List.filter_cons] at hlater ⊢
    simp [hlater]
  simp [last?, hsplit]

end Writes

def acceptedWrites (writes : Writes) (items : List BulkItem) : Writes :=
  ((writes.zip items).filter fun pair => isSuccessStatus pair.2.status).map Prod.fst

theorem acceptedWrites_sublist (writes : Writes) (items : List BulkItem) :
    (acceptedWrites writes items).Sublist writes := by
  induction writes generalizing items with
  | nil => simp [acceptedWrites]
  | cons write rest ih =>
    cases items with
    | nil => simp [acceptedWrites]
    | cons item others =>
      have hrest := ih others
      simp only [acceptedWrites] at hrest ⊢
      cases hstatus : isSuccessStatus item.status with
      | true => simpa [hstatus] using hrest
      | false => simpa [hstatus] using hrest.cons write

/-- An id under which no item failed has all its writes accepted. -/
theorem under_acceptedWrites {writes : Writes} {items : List BulkItem} {id : String}
    (hids : items.map (·.id) = writes.map Prod.fst)
    (haccepted : ∀ item ∈ items, item.id = id → isSuccessStatus item.status = true) :
    (acceptedWrites writes items).under id = writes.under id := by
  induction writes generalizing items with
  | nil => simp [acceptedWrites, Writes.under]
  | cons write rest ih =>
    cases items with
    | nil => simp at hids
    | cons item others =>
      simp only [List.map_cons, List.cons.injEq] at hids
      have hrest := ih hids.2 fun i hi => haccepted i (List.mem_cons_of_mem _ hi)
      simp only [acceptedWrites, Writes.under] at hrest ⊢
      by_cases hid : write.1 = id
      · have hstatus := haccepted item List.mem_cons_self (hids.1.trans hid)
        simp [hstatus, hid, hrest]
      · cases hstatus : isSuccessStatus item.status <;> simp [hstatus, hid, hrest]

/-- An engine that stores what it accepts. A request answered with status 200 has
one item for each write, in order and under its id, and exactly the writes
accepted with a status of success are made; an item that was not accepted is
never taken for an absent document. Any other request may have been made in part.
Settings do not touch documents. -/
structure Engine.StoresAccepted {σ : Type} (engine : Engine σ) (documents : σ → Documents) :
    Prop where
  settings : ∀ index settings state,
    documents (engine.respond (.putSettings index settings) state).2 = documents state
  answered : ∀ index writes state response,
    (engine.respond (.bulk index (Writes.actions writes)) state).1.outcome = .ok response →
    response.status = 200 →
    response.items.map (·.id) = writes.map Prod.fst ∧
      (∀ item ∈ response.items, item.isAbsent = false) ∧
      documents (engine.respond (.bulk index (Writes.actions writes)) state).2 =
        (acceptedWrites writes response.items).store index (documents state)
  otherwise : ∀ index writes state,
    (∀ response, (engine.respond (.bulk index (Writes.actions writes)) state).1.outcome =
      .ok response → response.status ≠ 200) →
    ∃ made, List.Sublist made writes ∧
      documents (engine.respond (.bulk index (Writes.actions writes)) state).2 =
        Writes.store index made (documents state)

/-- What an engine does with a bulk request: it judges the items, each by its
position, or it makes some first writes and the answer is lost. -/
inductive Reception where
  | judged (status : Nat → Nat)
  | lost (made : Nat)

namespace Reception

/-- The items of an answer. A refusal always has a reason. -/
def items (writes : Writes) (status : Nat → Nat) : List BulkItem :=
  writes.zipIdx.map fun (write, position) =>
    { id := write.1
      status := status position
      reason := if isSuccessStatus (status position) then none else some "refused" }

theorem items_id (writes : Writes) (status : Nat → Nat) :
    (items writes status).map (·.id) = writes.map Prod.fst := by
  have hfst : writes.zipIdx.map (fun pair => pair.1.1) =
      (writes.zipIdx.map Prod.fst).map Prod.fst := by
    rw [List.map_map, Function.comp_def]
  rw [items, List.map_map, Function.comp_def, hfst, List.zipIdx_map_fst]

end Reception

/-- An engine that takes its bulk requests as planned, by their number. Its state
are the documents and the number of requests so far. -/
def Engine.planned (plan : Nat → Reception) : Engine (Documents × Nat) where
  respond call state :=
    match call with
    | .bulk index actions =>
      let writes := Writes.ofActions actions
      match plan state.2 with
      | .judged status =>
        let items := Reception.items writes status
        ({ outcome := .ok { status := 200, items } },
          (acceptedWrites writes items).store index state.1, state.2 + 1)
      | .lost made =>
        ({ outcome := .error (.transport "lost") },
          Writes.store index (writes.take made) state.1, state.2 + 1)
    | .putSettings .. => ({ outcome := .ok () }, state)
    | _ => ({ outcome := .error (.unexpected "unknown call") }, state)

/-- Whatever the plan, the engine stores what it accepts. -/
theorem Engine.storesAccepted_planned (plan : Nat → Reception) :
    (Engine.planned plan).StoresAccepted Prod.fst where
  settings _ _ _ := rfl
  answered index writes state response hresponse hstatus := by
    simp only [planned, Writes.ofActions_actions] at hresponse ⊢
    cases hplan : plan state.2 with
    | lost made => simp [hplan] at hresponse
    | judged status =>
      simp only [hplan, Except.ok.injEq] at hresponse
      subst hresponse
      refine ⟨Reception.items_id writes status, ?_, rfl⟩
      intro item hitem
      obtain ⟨⟨write, position⟩, -, rfl⟩ := List.mem_map.mp hitem
      by_cases haccepted : isSuccessStatus (status position) = true
      · have hne : status position ≠ 404 := by
          intro h
          simp [h, isSuccessStatus] at haccepted
        simp [BulkItem.isAbsent, hne]
      · simp [BulkItem.isAbsent, haccepted]
  otherwise index writes state hother := by
    simp only [planned, Writes.ofActions_actions] at hother ⊢
    cases hplan : plan state.2 with
    | judged status =>
      simp only [hplan] at hother
      exact absurd rfl (hother _ rfl)
    | lost made => exact ⟨writes.take made, List.take_sublist _ _, rfl⟩

end SearchStore
