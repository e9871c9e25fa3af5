import Mathlib.Algebra.Group.Nat.Defs
import Mathlib.Data.List.Forall2
import SearchStore.Http.Message

/-!
Answers to bulk requests as the engine writes them. The body lists one entry for each
action: an object with the outcome under the name of what was to be done. The outcome gives
the id and the status of the item and, where something went wrong, the error; other members
may stand anywhere beside these. Reading the answer gives back what the engine has told,
item by item and in the same order.
-/

namespace SearchStore

/-- An error gives its reason by being a text, or under a name among other members. -/
inductive GivesReason (reason : String) : Json → Prop
  | text : GivesReason reason (.str reason)
  | object {members : List (String × Json)}
      (hreason : members.lookup "reason" = some (.str reason)) : GivesReason reason (.obj members)

theorem errorReason_of_givesReason {reason : String} {error : Json}
    (h : GivesReason reason error) : errorReason error = reason := by
  cases h with
  | text => rfl
  | object hreason => simp [errorReason, Json.get?, hreason, Json.asString?]

namespace BulkItem

/-- The members of an outcome that tell of an item. There is an error exactly if the item has
a reason. -/
structure ToldBy (item : BulkItem) (outcome : List (String × Json)) : Prop where
  id : outcome.lookup "_id" = some (.str item.id)
  status : outcome.lookup "status" = some (.int item.status)
  status_lt : item.status < 2 ^ 16
  error : Option.Rel GivesReason item.reason (outcome.lookup "error")

inductive HasEntry (item : BulkItem) : Json → Prop
  | intro (action : String) {outcome : List (String × Json)} (htold : item.ToldBy outcome) :
      HasEntry item (.obj [(action, .obj outcome)])

variable {item : BulkItem} {items : List BulkItem} {entry : Json} {entries : List Json}

theorem ToldBy.reason_eq {outcome : List (String × Json)} (h : item.ToldBy outcome) :
    (outcome.lookup "error").map errorReason = item.reason := by
  obtain ⟨id, status, reason⟩ := item
  have herror := h.error
  generalize outcome.lookup "error" = error at herror
  cases herror with
  | none => rfl
  | some hreason => exact congrArg some (errorReason_of_givesReason hreason)

/-- An entry is read as the item that it tells of. -/
theorem ofJson?_of_hasEntry (h : item.HasEntry entry) : ofJson? entry = some item := by
  obtain ⟨action, htold⟩ := h
  have hstatus : (Json.int item.status).asUnsigned? 16 = some item.status := by
    simpa [Json.asUnsigned?] using htold.status_lt
  simp [ofJson?, Json.asObject?, Json.get?, Json.asString?, htold.id, htold.status, hstatus,
    htold.reason_eq]

/-- Entries are read as their items, none of them left out. -/
theorem filterMap_ofJson?_of_hasEntry (h : List.Forall₂ HasEntry items entries) :
    entries.filterMap ofJson? = items := by
  induction h with
  | nil => rfl
  | cons hentry _ ih => rw [List.filterMap_cons, ofJson?_of_hasEntry hentry, ih]

/-- An item has failed if its status does not report success and it is not just absent. -/
theorem isSuccess_eq_false_iff (item : BulkItem) :
    item.isSuccess = false ↔
      ¬(200 ≤ item.status ∧ item.status < 300) ∧ ¬(item.status = 404 ∧ item.reason = none) := by
  rw [isSuccess, Bool.or_eq_false_iff]
  simp [isAbsent, isSuccessStatus, ← Option.isNone_iff_eq_none]

end BulkItem

namespace BulkResponse

theorem reason_ofJson_eq_none_iff (status : Nat) (body : Json) :
    (ofJson status body).reason = none ↔ 200 ≤ status ∧ status < 300 := by
  simp [ofJson, isSuccessStatus]

/-- The answer to a bulk request is read as it was written: every item with its id, its
status and its reason, in the order of the entries. The request as a whole has a reason
exactly if its status does not report success. An item has failed exactly if its own status
does not report success and it is not just absent. -/
theorem items_ofJson_of_hasEntry (status : Nat) (members : List (String × Json))
    (entries : List Json) (items : List BulkItem)
    (hitems : members.lookup "items" = some (.arr entries))
    (hentries : List.Forall₂ BulkItem.HasEntry items entries) :
    let response := ofJson status (.obj members)
    response.status = status ∧ response.items = items ∧
      (response.reason = none ↔ 200 ≤ status ∧ status < 300) ∧
      response.failedItems = items.filter (fun item =>
        ¬(200 ≤ item.status ∧ item.status < 300) ∧ ¬(item.status = 404 ∧ item.reason = none)) ∧
      ∀ text index actions, Json.read? text = some (.obj members) →
        Http.read (.bulk index actions) ⟨status, text⟩ = .ok response := by
  have hread : (ofJson status (.obj members)).items = items := by
    simp only [ofJson, Json.get?, hitems, Option.bind_some, Json.asArray?, Option.getD_some]
    exact BulkItem.filterMap_ofJson?_of_hasEntry hentries
  refine ⟨rfl, hread, reason_ofJson_eq_none_iff status _, ?_, ?_⟩
  · rw [failedItems, hread]
    refine List.filter_congr fun item _ => ?_
    rw [Bool.eq_iff_iff, Bool.not_eq_true', BulkItem.isSuccess_eq_false_iff, decide_eq_true_iff]
  · intro text index actions htext
    rw [Http.read, htext]
    rfl

/-- Three actions: one was carried out, one met no document, and one was turned away. -/
def threeItems : List BulkItem :=
  [{ id := "1", status := 201 }, { id := "2", status := 404 },
    { id := "3", status := 429, reason := some "queue full" }]

def threeEntries : List Json :=
  [.obj [("index", .obj [("_index", .str "orders"), ("_id", .str "1"), ("status", .int 201)])],
    .obj [("delete", .obj [("status", .int 404), ("_id", .str "2"), ("result", .str "not_found")])],
    .obj [("update", .obj [("_id", .str "3"), ("status", .int 429),
      ("error", .obj [("type", .str "rejected"), ("reason", .str "queue full")])])]]

/-- Only the action that was turned away counts as failed. -/
theorem items_ofJson_of_hasEntry_threeItems :
    let response := ofJson 200 (.obj [("took", .int 3), ("items", .arr threeEntries)])
    List.Forall₂ BulkItem.HasEntry threeItems threeEntries ∧ response.items = threeItems ∧
      response.failedItems = [{ id := "3", status := 429, reason := some "queue full" }] := by
  have hentries : List.Forall₂ BulkItem.HasEntry threeItems threeEntries := by
    have hreason : GivesReason "queue full"
        (.obj [("type", .str "rejected"), ("reason", .str "queue full")]) := .object rfl
    refine .cons (.intro _ ?_) (.cons (.intro _ ?_) (.cons (.intro _ ?_) .nil))
    · exact ⟨rfl, rfl, by decide, .none⟩
    · exact ⟨rfl, rfl, by decide, .none⟩
    · exact ⟨rfl, rfl, by decide, .some hreason⟩
  obtain ⟨-, hitems, -, hfailed, -⟩ :=
    items_ofJson_of_hasEntry 200 [("took", .int 3), ("items", .arr threeEntries)] threeEntries
      threeItems rfl hentries
  refine ⟨hentries, hitems, hfailed.trans ?_⟩
  decide

end BulkResponse

end SearchStore
