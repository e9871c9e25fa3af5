import SearchStore.Proofs.Engine.Lines
import SearchStore.Proofs.Engine.Losses

/-!
An engine that is shared with another client, who may delete a document before any
request, and of which answers may get lost after the request was carried out. What
happens at the requests to come stands beside the state of the engine.

Nothing that happens brings a document back, so a deletion that is carried out leaves
the document absent, however often it is asked for and by whom.
-/

namespace SearchStore

variable {σ : Type}

namespace Edit

variable {ref : DocumentRef}

theorem apply_remove_of_absent {documents : Documents} (h : documents ref = none) :
    (Edit.remove ref).apply documents = documents := by
  funext other
  by_cases hother : other = ref
  · subst hother
    simp [apply, h]
  · simp [apply, hother]

theorem apply_remove_self (documents : Documents) :
    (Edit.remove ref).apply documents ref = none := by
  simp [apply]

/-- To remove a document again changes nothing. -/
theorem apply_remove_remove (documents : Documents) :
    (Edit.remove ref).apply ((Edit.remove ref).apply documents) =
      (Edit.remove ref).apply documents :=
  apply_remove_of_absent (apply_remove_self documents)

end Edit

/-- What happens at a request besides what is asked for. -/
structure Turn where
  /-- Whether another client deletes the document just before. -/
  deletes : Bool := false
  /-- How the answer gets lost, if it does. The request is carried out nevertheless. -/
  lost : Option Loss := none

def Turn.met (turn : Turn) (ref : DocumentRef) (documents : Documents) : Documents :=
  if turn.deletes then (Edit.remove ref).apply documents else documents

theorem Turn.apply_remove_met (turn : Turn) (ref : DocumentRef) (documents : Documents) :
    (Edit.remove ref).apply (turn.met ref documents) = (Edit.remove ref).apply documents := by
  unfold met
  split
  · exact Edit.apply_remove_remove documents
  · rfl

theorem Turn.met_eq_none_iff (turn : Turn) (ref : DocumentRef) (documents : Documents) :
    turn.met ref documents ref = none ↔ documents ref = none ∨ turn.deletes = true := by
  unfold met
  cases turn.deletes <;> simp [Edit.apply]

abbrev Turns := Nat → Turn

namespace Turns

variable (turns : Turns)

def after (n : Nat) : Turns := fun m => turns (n + m)

/-- The first request of which the answer arrives. -/
structure FirstAnswered (n : Nat) : Prop where
  earlier_lost : ∀ m < n, (turns m).lost ≠ none
  answered : (turns n).lost = none

/-- Among so many requests in a row there is always one of which the answer arrives. -/
def FewLost (attempts : Nat) : Prop :=
  ∀ start, ∃ n < attempts, (turns (start + n)).lost = none

/-- The documents after requests that change nothing themselves. -/
def stored (ref : DocumentRef) (documents : Documents) : Nat → Documents
  | 0 => documents
  | n + 1 => (turns n).met ref (stored ref documents n)

theorem after_zero : turns.after 0 = turns := by
  funext m
  rw [after, Nat.zero_add]

theorem after_after (n m : Nat) : (turns.after n).after m = turns.after (n + m) := by
  funext k
  rw [after, after, after, Nat.add_assoc]

variable {turns} {ref : DocumentRef} {documents : Documents}

theorem after_apply_zero (n : Nat) : turns.after n 0 = turns n := rfl

/-- While all answers get lost, another attempt is left. -/
theorem FewLost.lt_of_lost {attempts n : Nat} (h : turns.FewLost attempts)
    (hlost : ∀ m ≤ n, (turns m).lost ≠ none) : n + 1 < attempts := by
  obtain ⟨m, hm, harrives⟩ := h 0
  rw [Nat.zero_add] at harrives
  have hlater : n < m := Nat.lt_of_not_le fun hle => hlost m hle harrives
  omega

theorem FirstAnswered.eq {n m : Nat} (hn : turns.FirstAnswered n) (hm : turns.FirstAnswered m) :
    n = m := by
  rcases Nat.lt_trichotomy n m with hlt | heq | hgt
  · exact absurd hn.answered (hm.earlier_lost n hlt)
  · exact heq
  · exact absurd hm.answered (hn.earlier_lost m hgt)

/-- The document is gone exactly when it was absent or somebody has deleted it. -/
theorem stored_eq_none_iff (n : Nat) :
    turns.stored ref documents n ref = none ↔
      documents ref = none ∨ ∃ m < n, (turns m).deletes = true := by
  induction n with
  | zero => simp [stored]
  | succ n ih =>
    rw [stored, Turn.met_eq_none_iff, ih, Nat.exists_lt_succ_right, or_assoc]

theorem apply_remove_stored (n : Nat) :
    (Edit.remove ref).apply (turns.stored ref documents n) =
      (Edit.remove ref).apply documents := by
  induction n with
  | zero => rfl
  | succ n ih => rw [stored, Turn.apply_remove_met, ih]

end Turns

/-- An engine without faults that answers the deletion of an absent document with status
404 and leaves the documents alone. -/
structure Engine.IsStrictStore (engine : Engine σ) (documents : σ → Documents) : Prop
    extends engine.IsStore documents where
  deleteAbsent : ∀ ref state, documents state ref = none →
    (∃ reason, engine.answer (.deleteDocument ref) state = .error (.response 404 reason)) ∧
      documents (engine.respond (.deleteDocument ref) state).2 = documents state

/-- A deletion leaves the document absent, whether it was there or not. -/
theorem Engine.IsStrictStore.documents_deleteDocument {engine : Engine σ}
    {documents : σ → Documents} (h : engine.IsStrictStore documents) (ref : DocumentRef)
    (state : σ) :
    documents (engine.respond (.deleteDocument ref) state).2 =
      (Edit.remove ref).apply (documents state) := by
  cases hpresent : documents state ref with
  | none =>
    rw [(h.deleteAbsent ref state hpresent).2, Edit.apply_remove_of_absent hpresent]
  | some content => exact (h.deleteDocument ref state (by simp [hpresent])).2

def Engine.met (engine : Engine σ) (ref : DocumentRef) (state : σ × Turns) : σ :=
  if (state.2 0).deletes then (engine.respond (.deleteDocument ref) state.1).2 else state.1

/-- The engine, shared with a client who deletes a document, over a connection on which
answers get lost. -/
def Engine.contested (engine : Engine σ) (ref : DocumentRef) : Engine (σ × Turns) where
  respond call state :=
    let (answer, next) := engine.respond call (engine.met ref state)
    let arriving := match (state.2 0).lost with
      | some loss => { outcome := .error (.transport loss.reason), duration := loss.duration }
      | none => answer
    (arriving, (next, state.2.after 1))

/-- The next request meets the document and is answered. -/
def MeetsDocument (documents : σ → Documents) (ref : DocumentRef) (state : σ × Turns) : Prop :=
  (state.2 0).lost = none ∧ (state.2 0).met ref (documents state.1) ref ≠ none

/-- The errors of a request that misses the document or goes without an answer. -/
def EngineError.IsMiss : EngineError → Prop
  | .response status _ => status = 404
  | .transport _ => True
  | .unexpected _ => False

section Contested

variable (engine : Engine σ) (ref : DocumentRef) (call : Engine.Call) {state : σ × Turns}

theorem Engine.snd_respond_contested :
    ((engine.contested ref).respond call state).2 =
      ((engine.respond call (engine.met ref state)).2, state.2.after 1) := rfl

theorem Engine.answer_contested_of_lost (h : (state.2 0).lost ≠ none) :
    ∃ reason, (engine.contested ref).answer call state = .error (.transport reason) := by
  obtain ⟨loss, hloss⟩ := Option.ne_none_iff_exists'.mp h
  exact ⟨loss.reason, by simp [answer, contested, hloss]⟩

theorem Engine.answer_contested (h : (state.2 0).lost = none) :
    (engine.contested ref).answer call state = engine.answer call (engine.met ref state) := by
  simp [answer, contested, h]

variable {engine} {documents : σ → Documents} (hstore : engine.IsStrictStore documents)
include hstore

theorem Engine.not_cancels_contested (state : σ × Turns) :
    ((engine.contested ref).respond call state).1.cancels = false := by
  simp only [contested]
  split
  · rfl
  · exact hstore.not_cancels call _

theorem Engine.documents_met :
    documents (engine.met ref state) = (state.2 0).met ref (documents state.1) := by
  unfold met Turn.met
  split
  · exact hstore.documents_deleteDocument ref state.1
  · rfl

theorem Engine.answer_deleteDocument_of_meets (h : MeetsDocument documents ref state) :
    (engine.contested ref).answer (.deleteDocument ref) state = .ok () := by
  rw [answer_contested _ _ _ h.1]
  refine (hstore.deleteDocument ref _ ?_).1
  rw [documents_met ref hstore, Option.isSome_iff_ne_none]
  exact h.2

theorem Engine.answer_deleteDocument_of_not_meets (h : ¬ MeetsDocument documents ref state) :
    ∃ error, (engine.contested ref).answer (.deleteDocument ref) state = .error error ∧
      error.IsMiss := by
  by_cases hanswered : (state.2 0).lost = none
  · have habsent : documents (engine.met ref state) ref = none := by
      rw [documents_met ref hstore]
      exact Classical.not_not.mp fun hpresent => h ⟨hanswered, hpresent⟩
    obtain ⟨reason, hanswer⟩ := (hstore.deleteAbsent ref _ habsent).1
    exact ⟨.response 404 reason, (answer_contested _ _ _ hanswered).trans hanswer, rfl⟩
  · obtain ⟨reason, hanswer⟩ := answer_contested_of_lost engine ref (.deleteDocument ref) hanswered
    exact ⟨.transport reason, hanswer, trivial⟩

theorem Engine.documents_deleteDocument_contested :
    documents ((engine.contested ref).respond (.deleteDocument ref) state).2.1 =
      (Edit.remove ref).apply (documents state.1) := by
  rw [snd_respond_contested, hstore.documents_deleteDocument, documents_met ref hstore,
    Turn.apply_remove_met]

omit hstore in
/-- What is absent is missed. -/
theorem not_meetsDocument_of_absent {documents : σ → Documents} {ref : DocumentRef}
    {state : σ × Turns} (h : documents state.1 ref = none) : ¬ MeetsDocument documents ref state :=
  fun hmeets => hmeets.2 ((Turn.met_eq_none_iff _ _ _).mpr (.inl h))

end Contested

theorem Engine.isStrictStore_shelf : shelf.IsStrictStore id where
  toIsStore := isStore_shelf
  deleteAbsent ref stored h := by
    simp only [id] at h
    simp [Engine.answer, shelf, h]

end SearchStore
