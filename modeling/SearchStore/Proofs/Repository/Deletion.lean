import SearchStore.Proofs.Engine.Contested
import SearchStore.Proofs.Repository.Storage

/-!
The deletion of a document against another client who deletes the same one, over a
connection on which answers get lost. Whatever happens, the document is gone
afterwards. In bulk the deletion succeeds, for an absent document is no failure there.

By itself it succeeds only if the document is found absent before, or the first request
to delete it meets it and is answered. A document that goes in between, by the other
client or by a request of which the answer got lost, is missed by the next request;
this is taken for a failure, and no further attempt can mend it.
-/

namespace SearchStore.Repository

open SearchStore.Repository.Action

variable {σ : Type}

def contested (repo : Repository σ) (id : String) : Repository (σ × Turns) :=
  repo.withEngine (repo.engine.contested (repo.ref id))

/-- What is known of the engine, by the number of requests so far, while a call that it
would answer gets lost. -/
structure AlwaysAnswered (repo : Repository σ) (id : String) (call : Engine.Call) (turns : Turns)
    (reached : Nat → σ → Prop) : Prop where
  answers : ∀ n state, state.2 = turns.after n → reached n state.1 →
    ∃ answer, repo.engine.answer call (repo.engine.met (repo.ref id) state) = .ok answer
  next : ∀ n state, state.2 = turns.after n → reached n state.1 →
    reached (n + 1) (repo.engine.respond call (repo.engine.met (repo.ref id) state)).2

structure Awaiting (turns : Turns) (reached : Nat → σ → Prop) (n : Nat) (state : σ × Turns) :
    Prop where
  earlier_lost : ∀ m < n, (turns m).lost ≠ none
  ahead : state.2 = turns.after n
  reached : reached n state.1

theorem Awaiting.turn_eq {turns : Turns} {reached : Nat → σ → Prop} {n : Nat} {state : σ × Turns}
    (h : Awaiting turns reached n state) : state.2 0 = turns n := by
  rw [h.ahead, Turns.after_apply_zero]

/-- One more answer gets lost. -/
theorem Awaiting.next {repo : Repository σ} {id : String} {call : Engine.Call} {turns : Turns}
    {reached : Nat → σ → Prop} {n : Nat} {state : σ × Turns} (h : Awaiting turns reached n state)
    (hanswered : repo.AlwaysAnswered id call turns reached) (hlost : (turns n).lost ≠ none) :
    Awaiting turns reached (n + 1) ((repo.contested id).engine.respond call state).2 where
  earlier_lost m hm := by
    rcases Nat.lt_succ_iff_lt_or_eq.mp hm with hlt | rfl
    · exact h.earlier_lost m hlt
    · exact hlost
  ahead := by
    rw [← Turns.after_after, ← h.ahead]
    rfl
  reached := hanswered.next n state h.ahead h.reached

/-- How requests to delete the document end: well if the first one meets it and is
answered, and else with an error, since what is asked for has then been done. -/
structure DeletesIf (meets : Prop) (result : Except RepositoryError Unit) : Prop where
  ok_of_meets : meets → result = .ok ()
  missed : ¬ meets → ∃ error : EngineError, result = .error (.engine error) ∧ error.IsMiss

/-- Of a document nothing is left, the others are as before, and every wait was measured. -/
structure Removed (documents : σ → Documents) (ref : DocumentRef)
    (session later : Session (EngineState (σ × Turns))) : Prop where
  documents_eq : documents later.state.engine.1 =
    (Edit.remove ref).apply (documents session.state.engine.1)
  overflowed_eq : later.overflowed = session.overflowed

theorem Removed.absent {documents : σ → Documents} {ref : DocumentRef}
    {session later : Session (EngineState (σ × Turns))} (h : Removed documents ref session later) :
    documents later.state.engine.1 ref = none := by
  rw [h.documents_eq, Edit.apply_remove_self]

section Calls

variable (repo : Repository σ) (id : String)

theorem attempt_of_lost (call : Engine.Call) (now : Nat) {state : EngineState (σ × Turns)}
    (h : (state.engine.2 0).lost ≠ none) :
    ∃ reason, ((repo.contested id).engine.attempt call now state).1.outcome =
      .error (.engine (.transport reason)) := by
  obtain ⟨reason, hanswer⟩ := Engine.answer_contested_of_lost repo.engine (repo.ref id) call h
  refine ⟨reason, ?_⟩
  rw [Engine.outcome_attempt]
  exact congrArg (Except.mapError _) hanswer

theorem overflowed_call_contested (hmeasurable : repo.retry.IsMeasurable) (call : Engine.Call)
    (session : Session (EngineState (σ × Turns))) :
    ((repo.contested id).call call session).2.overflowed = session.overflowed :=
  RetryPolicy.overflowed_execute hmeasurable (repo.contested id).shouldRetry _ session

variable {repo id}

theorem attempt_of_answered (now : Nat) {call : Engine.Call} {state : EngineState (σ × Turns)}
    {answer : call.Answer} (h : (state.engine.2 0).lost = none)
    (hanswer : repo.engine.answer call (repo.engine.met (repo.ref id) state.engine) = .ok answer) :
    ((repo.contested id).engine.attempt call now state).1.outcome = .ok answer := by
  rw [Engine.outcome_attempt]
  exact congrArg (Except.mapError _) ((Engine.answer_contested _ _ _ h).trans hanswer)

variable {documents : σ → Documents} (hstore : repo.engine.IsStrictStore documents)
include hstore

theorem not_cancels_attempt (call : Engine.Call) (now : Nat) (state : EngineState (σ × Turns)) :
    ((repo.contested id).engine.attempt call now state).1.cancels = false :=
  Engine.not_cancels_contested (repo.ref id) call hstore state.engine

/-- A request in bulk to delete the document is carried out, whether it meets it or not. -/
theorem answer_delete_in_bulk (id : String) (state : σ × Turns) :
    ∃ response, repo.engine.answer (.bulk repo.index [.delete id])
        (repo.engine.met (repo.ref id) state) = .ok response ∧
      response.status = 200 ∧ response.failedItems = [] ∧
      documents (repo.engine.respond (.bulk repo.index [.delete id])
        (repo.engine.met (repo.ref id) state)).2 =
          (Edit.remove (repo.ref id)).apply (documents state.1) := by
  have hedits : [BulkAction.delete id].map (Edit.ofAction? repo.index) =
      [Edit.remove (repo.ref id)].map some := rfl
  obtain ⟨response, hanswer, hstatus, hfailed, hstored⟩ :=
    answer_bulk hstore.toIsStore hedits (repo.engine.met (repo.ref id) state)
  refine ⟨response, hanswer, hstatus, hfailed, hstored.trans ?_⟩
  rw [Engine.documents_met _ hstore]
  exact Turn.apply_remove_met _ _ _

theorem attempt_deleteDocument_missed (now : Nat) {state : EngineState (σ × Turns)}
    (hmissed : ¬ MeetsDocument documents (repo.ref id) state.engine) :
    ∃ error : EngineError,
      ((repo.contested id).engine.attempt (.deleteDocument (repo.ref id)) now state).1.outcome =
        .error (.engine error) ∧ error.IsMiss := by
  obtain ⟨error, hanswer, hmiss⟩ :=
    Engine.answer_deleteDocument_of_not_meets (repo.ref id) hstore hmissed
  refine ⟨error, ?_, hmiss⟩
  rw [Engine.outcome_attempt]
  exact congrArg (Except.mapError _) hanswer

variable {session : Session (EngineState (σ × Turns))} (h : session.cancelledAt = none)
include h

theorem cancelledAt_call_contested (call : Engine.Call) :
    ((repo.contested id).call call session).2.cancelledAt = none :=
  RetryPolicy.cancelledAt_execute (fun _ => not_cancels_attempt hstore call) _ _ session h

/-- A call that the engine always answers is made until an answer arrives. -/
theorem call_first_answered (hmeasurable : repo.retry.IsMeasurable) {call : Engine.Call}
    {reached : Nat → σ → Prop}
    (hanswered : repo.AlwaysAnswered id call session.state.engine.2 reached)
    (hfew : session.state.engine.2.FewLost repo.retry.maxAttempts)
    (hstart : reached 0 session.state.engine.1) :
    ∃ n state answer, Awaiting session.state.engine.2 reached n state ∧
      (session.state.engine.2 n).lost = none ∧
      repo.engine.answer call (repo.engine.met (repo.ref id) state) = .ok answer ∧
      ((repo.contested id).call call session).1 = .ok answer ∧
      ((repo.contested id).call call session).2.state.engine =
        ((repo.contested id).engine.respond call state).2 := by
  let turns := session.state.engine.2
  have hkeeps : Task.AttemptInvariant (repo.contested id).retry (repo.contested id).shouldRetry
      (fun _ now => (repo.contested id).engine.attempt call now)
      (fun k state => ∃ n, k = n + 1 ∧ Awaiting turns reached n state.engine)
      (fun result state => result = .error .cancelled ∨
        ∃ n before answer, Awaiting turns reached n before ∧ (turns n).lost = none ∧
          repo.engine.answer call (repo.engine.met (repo.ref id) before) = .ok answer ∧
          result = .ok answer ∧
          state.engine = ((repo.contested id).engine.respond call before).2) := {
    cancelled := fun _ _ _ => .inl rfl
    interrupted := fun _ _ _ _ => .inl rfl
    stopped := by
      rintro _ now state - ⟨n, rfl, hawaiting⟩ hlast
      by_cases harrives : (turns n).lost = none
      · obtain ⟨answer, hanswer⟩ :=
          hanswered.answers n state.engine hawaiting.ahead hawaiting.reached
        refine .inr ⟨n, state.engine, answer, hawaiting, harrives, hanswer, ?_, rfl⟩
        rw [attempt_of_answered now (by rwa [hawaiting.turn_eq]) hanswer]
        rfl
      · -- The answer gets lost, and an attempt is left.
        obtain ⟨reason, houtcome⟩ :=
          repo.attempt_of_lost id call now (by rwa [hawaiting.turn_eq])
        have hbound : n + 1 < repo.retry.maxAttempts := by
          refine hfew.lt_of_lost fun m hm => ?_
          rcases Nat.lt_or_eq_of_le hm with hlt | rfl
          · exact hawaiting.earlier_lost m hlt
          · exact harrives
        have hused : repo.retry.maxAttempts ≤ n + 1 := RetryPolicy.maxAttempts_le_of_last
          hmeasurable houtcome (shouldRetry_transport _ reason) hlast
        omega
    retried := by
      rintro _ now state delay ⟨n, rfl, hawaiting⟩ hdelay
      refine ⟨n + 1, rfl, hawaiting.next hanswered fun harrives => ?_⟩
      obtain ⟨answer, hanswer⟩ :=
        hanswered.answers n state.engine hawaiting.ahead hawaiting.reached
      obtain ⟨error, herror, -⟩ := RetryPolicy.exists_error_of_nextDelay?_eq_some hdelay
      rw [attempt_of_answered now (by rwa [hawaiting.turn_eq]) hanswer] at herror
      cases herror }
  obtain ⟨n, state, answer, hawaiting, harrives, hanswer, hresult, hstate⟩ :=
    (RetryPolicy.execute_induction hkeeps session
      ⟨0, rfl, by simp, (Turns.after_zero turns).symm, hstart⟩).resolve_left
      (RetryPolicy.execute_ne_cancelled (fun _ => not_cancels_attempt hstore call) _ _ session h)
  refine ⟨n, state, answer, hawaiting, harrives, hanswer, ?_, hstate⟩
  simp only [Repository.call, hresult]
  rfl

variable (id) in
/-- Requests to delete the document succeed if the first one meets it. If it does not, no
later one does. -/
theorem call_deleteDocument_contested :
    DeletesIf (MeetsDocument documents (repo.ref id) session.state.engine)
      ((repo.contested id).call (.deleteDocument (repo.ref id)) session).1 ∧
    documents ((repo.contested id).call (.deleteDocument (repo.ref id)) session).2.state.engine.1 =
      (Edit.remove (repo.ref id)).apply (documents session.state.engine.1) := by
  have hdeleted (now : Nat) (state : EngineState (σ × Turns)) :
      documents ((repo.contested id).engine.attempt (.deleteDocument (repo.ref id)) now
        state).2.engine.1 = (Edit.remove (repo.ref id)).apply (documents state.engine.1) :=
    Engine.documents_deleteDocument_contested (repo.ref id) hstore
  by_cases hmeets : MeetsDocument documents (repo.ref id) session.state.engine
  · have houtcome : ((repo.contested id).engine.attempt (.deleteDocument (repo.ref id)) session.now
        session.state).1.outcome = .ok () := by
      rw [Engine.outcome_attempt]
      exact congrArg (Except.mapError _)
        (Engine.answer_deleteDocument_of_meets (repo.ref id) hstore hmeets)
    rw [Repository.call, RetryPolicy.execute_of_ok _ _ h (not_cancels_attempt hstore _ _ _)
      houtcome]
    exact ⟨⟨fun _ => rfl, fun hmissed => absurd hmeets hmissed⟩, hdeleted _ _⟩
  · -- The first request misses the document, and so does every later one.
    have hkeeps : Task.AttemptInvariant (repo.contested id).retry (repo.contested id).shouldRetry
        (fun _ now => (repo.contested id).engine.attempt (.deleteDocument (repo.ref id)) now)
        (fun _ state => ¬ MeetsDocument documents (repo.ref id) state.engine ∧
          (Edit.remove (repo.ref id)).apply (documents state.engine.1) =
            (Edit.remove (repo.ref id)).apply (documents session.state.engine.1))
        (fun result state => result = .error .cancelled ∨
          (∃ error : EngineError, result = .error (.failed (.engine error)) ∧ error.IsMiss) ∧
            documents state.engine.1 =
              (Edit.remove (repo.ref id)).apply (documents session.state.engine.1)) := {
      cancelled := fun _ _ _ => .inl rfl
      interrupted := fun _ _ _ _ => .inl rfl
      stopped := by
        rintro _ now state - ⟨hmissed, hsame⟩ -
        obtain ⟨error, houtcome, hmiss⟩ := attempt_deleteDocument_missed hstore now hmissed
        exact .inr ⟨⟨error, by rw [houtcome]; rfl, hmiss⟩, (hdeleted now state).trans hsame⟩
      retried := by
        rintro _ now state _ ⟨-, hsame⟩ -
        rw [hdeleted]
        refine ⟨not_meetsDocument_of_absent ?_, ?_⟩
        · rw [hdeleted]
          exact Edit.apply_remove_self _
        · rw [Edit.apply_remove_remove, hsame] }
    obtain ⟨⟨error, hresult, hmiss⟩, hstate⟩ :=
      (RetryPolicy.execute_induction hkeeps session ⟨hmeets, rfl⟩).resolve_left
        (RetryPolicy.execute_ne_cancelled (fun _ => not_cancels_attempt hstore _) _ _ session h)
    refine ⟨⟨fun h => absurd h hmeets, fun _ => ⟨error, ?_, hmiss⟩⟩, hstate⟩
    simp only [Repository.call, hresult]
    rfl

end Calls

section Deletions

variable {repo : Repository σ} {documents : σ → Documents}
  (hstore : repo.engine.IsStrictStore documents) (hmeasurable : repo.retry.IsMeasurable)
  {id : String} {session : Session (EngineState (σ × Turns))} (h : session.cancelledAt = none)
  (hfew : session.state.engine.2.FewLost repo.retry.maxAttempts)
include hstore hmeasurable h hfew

variable (id) in
/-- Whether the document exists is answered as it is when the first answer arrives. -/
theorem documentExists_contested :
    ∃ n, session.state.engine.2.FirstAnswered n ∧
      ((repo.contested id).documentExists id session).1 =
        .ok (session.state.engine.2.stored (repo.ref id) (documents session.state.engine.1)
          (n + 1) (repo.ref id)).isSome ∧
      ((repo.contested id).documentExists id session).2.state.engine.2 =
        session.state.engine.2.after (n + 1) ∧
      documents ((repo.contested id).documentExists id session).2.state.engine.1 =
        session.state.engine.2.stored (repo.ref id) (documents session.state.engine.1) (n + 1) := by
  let turns := session.state.engine.2
  have hmet (n : Nat) (state : σ × Turns) (hahead : state.2 = turns.after n)
      (hstored : documents state.1 =
        turns.stored (repo.ref id) (documents session.state.engine.1) n) :
      documents (repo.engine.met (repo.ref id) state) =
        turns.stored (repo.ref id) (documents session.state.engine.1) (n + 1) := by
    rw [Engine.documents_met _ hstore, hstored, hahead, Turns.after_apply_zero, Turns.stored]
  have hanswered : repo.AlwaysAnswered id (.documentExists (repo.ref id)) turns
      (fun n state => documents state =
        turns.stored (repo.ref id) (documents session.state.engine.1) n) := {
    answers := fun _ _ _ _ => ⟨_, (hstore.documentExists _ _).1⟩
    next := fun n state hahead hstored =>
      (hstore.documentExists _ _).2.trans (hmet n state hahead hstored) }
  obtain ⟨n, state, answer, hawaiting, harrives, hanswer, hresult, hstate⟩ :=
    call_first_answered hstore h hmeasurable hanswered hfew rfl
  obtain ⟨hexists, hsame⟩ :=
    hstore.documentExists (repo.ref id) (repo.engine.met (repo.ref id) state)
  rw [hmet n state hawaiting.ahead hawaiting.reached] at hexists hsame
  obtain rfl := Except.ok.inj (hanswer.symm.trans hexists)
  simp only [documentExists]
  refine ⟨n, ⟨hawaiting.earlier_lost, harrives⟩, hresult, ?_, ?_⟩
  · refine (congrArg Prod.snd hstate).trans ?_
    rw [← Turns.after_after, ← hawaiting.ahead]
    rfl
  · exact (congrArg (fun state => documents state.1) hstate).trans hsame

/-- In bulk the deletion succeeds. -/
theorem bulkDelete_contested :
    ((repo.contested id).bulkDelete [id] session).1 = .ok () ∧
      Removed documents (repo.ref id) session ((repo.contested id).bulkDelete [id] session).2 := by
  let removed := (Edit.remove (repo.ref id)).apply (documents session.state.engine.1)
  have hanswered : repo.AlwaysAnswered id (.bulk repo.index [.delete id])
      session.state.engine.2
      (fun _ state => (Edit.remove (repo.ref id)).apply (documents state) = removed) := {
    answers := fun _ state _ _ => by
      obtain ⟨response, hanswer, -⟩ := answer_delete_in_bulk hstore id state
      exact ⟨response, hanswer⟩
    next := fun _ state _ hreached => by
      obtain ⟨_, -, -, -, hstored⟩ := answer_delete_in_bulk hstore id state
      rw [hstored, Edit.apply_remove_remove, hreached] }
  obtain ⟨_, state, answer, hawaiting, -, hanswer, hresult, hstate⟩ :=
    call_first_answered hstore h hmeasurable hanswered hfew rfl
  obtain ⟨response, hresponse, hstatus, hfailed, hstored⟩ := answer_delete_in_bulk hstore id state
  rw [hawaiting.reached] at hstored
  obtain rfl := Except.ok.inj (hanswer.symm.trans hresponse)
  have hcall : (repo.contested id).call (.bulk repo.index [.delete id]) session =
      (.ok answer, ((repo.contested id).call (.bulk repo.index [.delete id]) session).2) :=
    Prod.ext hresult rfl
  have hrun : (repo.contested id).bulkDelete [id] session =
      (.ok (), ((repo.contested id).call (.bulk repo.index [.delete id]) session).2) := by
    have hsuccess : isSuccessStatus answer.status = true := by rw [hstatus]; rfl
    refine (run_bind_ok hcall).trans ?_
    simp only [hsuccess, hfailed]
    rfl
  rw [hrun]
  refine ⟨rfl, (congrArg (fun state => documents state.1) hstate).trans hstored, ?_⟩
  exact repo.overflowed_call_contested id hmeasurable _ session

/-- By itself it succeeds if the document is found absent, or else if the next request meets
it and is answered. -/
theorem delete_contested :
    ∃ asked, session.state.engine.2.FirstAnswered asked ∧
      DeletesIf
        ((documents session.state.engine.1 (repo.ref id) = none ∨
            ∃ n ≤ asked, (session.state.engine.2 n).deletes = true) ∨
          (session.state.engine.2 (asked + 1)).lost = none ∧
            (session.state.engine.2 (asked + 1)).deletes = false)
        ((repo.contested id).delete id session).1 ∧
      Removed documents (repo.ref id) session ((repo.contested id).delete id session).2 := by
  obtain ⟨asked, hfirst, hresult, hahead, hstored⟩ :=
    documentExists_contested hstore hmeasurable id h hfew
  refine ⟨asked, hfirst, ?_⟩
  have hexists : (repo.contested id).documentExists id session =
      (.ok _, ((repo.contested id).documentExists id session).2) := Prod.ext hresult rfl
  have hmeasured : ((repo.contested id).documentExists id session).2.overflowed =
      session.overflowed := repo.overflowed_call_contested id hmeasurable _ session
  rw [delete, run_bind_ok hexists]
  cases hfound : session.state.engine.2.stored (repo.ref id) (documents session.state.engine.1)
      (asked + 1) (repo.ref id) with
  | none =>
    have hgone := (Turns.stored_eq_none_iff (asked + 1)).mp hfound
    simp only [Nat.lt_succ_iff] at hgone
    refine ⟨⟨fun _ => rfl, fun hmissed => absurd (.inl hgone) hmissed⟩, ?_⟩
    refine ⟨hstored.trans ?_, hmeasured⟩
    rw [← Edit.apply_remove_of_absent hfound, Turns.apply_remove_stored]
  | some content =>
    have hthere : ¬ (documents session.state.engine.1 (repo.ref id) = none ∨
        ∃ n ≤ asked, (session.state.engine.2 n).deletes = true) := by
      intro hgone
      simp only [← Nat.lt_succ_iff] at hgone
      rw [(Turns.stored_eq_none_iff (asked + 1)).mpr hgone] at hfound
      cases hfound
    have hturn : ((repo.contested id).documentExists id session).2.state.engine.2 0 =
        session.state.engine.2 (asked + 1) := by
      rw [hahead, Turns.after_apply_zero]
    have hmeets : MeetsDocument documents (repo.ref id)
        ((repo.contested id).documentExists id session).2.state.engine ↔
          (session.state.engine.2 (asked + 1)).lost = none ∧
            (session.state.engine.2 (asked + 1)).deletes = false := by
      rw [MeetsDocument, hturn, hstored, ne_eq, Turn.met_eq_none_iff, hfound]
      simp
    have hafter : ((repo.contested id).documentExists id session).2.cancelledAt = none :=
      cancelledAt_call_contested hstore h (.documentExists (repo.ref id))
    obtain ⟨hdeletes, hremoved⟩ := call_deleteDocument_contested id hstore hafter
    rw [hstored, Turns.apply_remove_stored] at hremoved
    refine ⟨⟨?_, ?_⟩, hremoved, (repo.overflowed_call_contested id hmeasurable _ _).trans hmeasured⟩
    · rintro (hgone | hmet)
      · exact absurd hgone hthere
      · exact hdeletes.ok_of_meets (hmeets.mpr hmet)
    · intro hmissed
      exact hdeletes.missed fun hmet => hmissed (.inr (hmeets.mp hmet))

end Deletions

/-- A shelf with one note, of which another client knows. The answer to the second request
gets lost. -/
def oneNote : Session (EngineState (Documents × Turns)) :=
  .start
    { engine := (fun ref => if ref = notes.ref "a" then some (.str "first") else none,
        fun n => if n = 1 then { lost := some { reason := "connection reset" } } else {}) }
    none

/-- The deletion of a document against another client, by itself and in bulk. -/
theorem deletions_contested (repo : Repository σ) (documents : σ → Documents)
    (hstore : repo.engine.IsStrictStore documents) (hmeasurable : repo.retry.IsMeasurable)
    (id : String) (session : Session (EngineState (σ × Turns)))
    (huncancelled : session.cancelledAt = none)
    (hfew : session.state.engine.2.FewLost repo.retry.maxAttempts) :
    (∃ asked, session.state.engine.2.FirstAnswered asked ∧
      DeletesIf
        ((documents session.state.engine.1 (repo.ref id) = none ∨
            ∃ n ≤ asked, (session.state.engine.2 n).deletes = true) ∨
          (session.state.engine.2 (asked + 1)).lost = none ∧
            (session.state.engine.2 (asked + 1)).deletes = false)
        ((repo.contested id).delete id session).1 ∧
      Removed documents (repo.ref id) session ((repo.contested id).delete id session).2) ∧
    ((repo.contested id).bulkDelete [id] session).1 = .ok () ∧
      Removed documents (repo.ref id) session ((repo.contested id).bulkDelete [id] session).2 :=
  ⟨delete_contested hstore hmeasurable huncancelled hfew,
    bulkDelete_contested hstore hmeasurable huncancelled hfew⟩

/-- A deletion of which the answer gets lost is taken for a failure, but not in bulk. -/
theorem deletions_contested_lost_answer :
    (∃ error : EngineError,
      ((notes.contested "a").delete "a" oneNote).1 = .error (.engine error) ∧ error.IsMiss) ∧
    ((notes.contested "a").delete "a" oneNote).2.state.engine.1 (notes.ref "a") = none ∧
    ((notes.contested "a").bulkDelete ["a"] oneNote).1 = .ok () := by
  have hfew : oneNote.state.engine.2.FewLost notes.retry.maxAttempts := by
    intro start
    by_cases hstart : start = 1
    · exact ⟨1, by decide, by simp [oneNote, Session.start, hstart]⟩
    · exact ⟨0, by decide, by simp [oneNote, Session.start, hstart]⟩
  obtain ⟨⟨asked, hfirst, hdeletes, hremoved⟩, hbulk, -⟩ := deletions_contested notes id
    Engine.isStrictStore_shelf (RetryPolicy.isMeasurable_ofAttempts (by decide)) "a" oneNote rfl
    hfew
  obtain rfl : asked = 0 := hfirst.eq ⟨by simp, rfl⟩
  refine ⟨hdeletes.missed ?_, hremoved.absent, hbulk⟩
  rintro ((habsent | ⟨n, hn, hdeleted⟩) | ⟨hanswered, -⟩)
  · simp [oneNote, Session.start] at habsent
  · obtain rfl : n = 0 := by omega
    cases hdeleted
  · cases hanswered

end SearchStore.Repository
