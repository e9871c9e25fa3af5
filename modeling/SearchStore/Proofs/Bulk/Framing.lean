import SearchStore.Http.Message
import SearchStore.Proofs.Engine.Lines

/-!
Bulk requests read back from their lines. A line names a document and says what to do to
it, and is followed by the content if there is one. The content may be any document, also
one that looks like the line of an action, so a line by itself does not say what it is:
where an action ends shows only to a reader that goes through the lines in their order.
Such a reader finds the actions again, each with the document that its line names, and so
requests for different actions have different lines.
-/

namespace SearchStore.BulkAction

def mergedPart? : Json → Option Json
  | .obj [(key, part)] => if key = "doc" then some part else none
  | _ => none

/-- Reads lines action by action, each with the document that its line names. -/
def ofLines? : List Json → Option (List (DocumentRef × BulkAction))
  | [] => some []
  | .obj [(kind, named)] :: rest => do
    let ref ← Edit.target? named
    if kind = "delete" then return (ref, .delete ref.id) :: (← ofLines? rest)
    else if kind = "index" then
      match rest with
      | [] => none
      | document :: rest => return (ref, .index ref.id document) :: (← ofLines? rest)
    else if kind = "update" then
      match rest with
      | [] => none
      | line :: rest => return (ref, .update ref.id (← mergedPart? line)) :: (← ofLines? rest)
    else none
  | _ => none

/-- An action of a request to an index, with its document routed by the id. -/
def addressed (index : String) (action : BulkAction) : DocumentRef × BulkAction :=
  (.of index action.id, action)

variable {index : String}

/-- The lines of an action are read as this action, whatever follows them. -/
theorem ofLines?_lines_append (action : BulkAction) (rest : List Json) :
    ofLines? (action.lines index ++ rest) =
      (ofLines? rest).map (action.addressed index :: ·) := by
  cases action with
  | index id document =>
    simp only [lines, header, List.cons_append, List.nil_append, ofLines?, Edit.target?_header]
    cases ofLines? rest <;> rfl
  | update id part =>
    simp only [lines, header, List.cons_append, List.nil_append, ofLines?, Edit.target?_header,
      mergedPart?]
    cases ofLines? rest <;> rfl
  | delete id =>
    simp only [lines, header, List.cons_append, List.nil_append, ofLines?, Edit.target?_header]
    cases ofLines? rest <;> rfl

/-- The lines of actions are read as these actions. -/
theorem ofLines?_flatMap_lines (actions : List BulkAction) :
    ofLines? (actions.flatMap (·.lines index)) = some (actions.map (·.addressed index)) := by
  induction actions with
  | nil => rfl
  | cons action rest ih =>
    rw [List.flatMap_cons, ofLines?_lines_append, ih]
    rfl

theorem map_snd_addressed (actions : List BulkAction) :
    (actions.map (·.addressed index)).map Prod.snd = actions := by
  rw [List.map_map]
  exact List.map_id actions

/-- One reader finds the actions of every request again, with the index, the id and the id
as routing. So different actions make different requests, and actions at all make different
requests to different indices. -/
theorem lines_uniquely_read :
    (∀ (index : String) (actions : List BulkAction),
      ofLines? (actions.flatMap (·.lines index)) =
        some (actions.map fun action => (⟨index, action.id, action.id⟩, action))) ∧
    ∀ (index other : String) (actions others : List BulkAction),
      (Http.request (.bulk index actions)).body = (Http.request (.bulk other others)).body →
        actions = others ∧ (actions ≠ [] → index = other) := by
  refine ⟨fun _ actions => ofLines?_flatMap_lines actions, ?_⟩
  intro index other actions others hbody
  have hlines : actions.flatMap (·.lines index) = others.flatMap (·.lines other) :=
    Http.Body.lines.inj hbody
  have hread : actions.map (·.addressed index) = others.map (·.addressed other) := by
    have hsame := congrArg ofLines? hlines
    rwa [ofLines?_flatMap_lines, ofLines?_flatMap_lines, Option.some.injEq] at hsame
  have hactions : actions = others := by
    have hsame := congrArg (List.map Prod.snd) hread
    rwa [map_snd_addressed, map_snd_addressed] at hsame
  refine ⟨hactions, fun hne => ?_⟩
  subst hactions
  obtain ⟨action, rest, rfl⟩ := List.exists_cons_of_ne_nil hne
  exact congrArg (·.1.index) (List.cons.inj hread).1

/-- A content that looks like a deletion is a content. -/
example :
    let action : BulkAction := .index "a" (header "delete" "orders" "b")
    ofLines? (action.lines "orders") = some [(⟨"orders", "a", "a"⟩, action)] := rfl

end SearchStore.BulkAction
