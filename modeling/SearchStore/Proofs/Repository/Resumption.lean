import SearchStore.Proofs.Repository.Creation
import SearchStore.Proofs.Repository.Masking

/-!
The creation of an index that is interrupted. Any request may be answered with an error,
whether it was carried out or not, and the creation may be cancelled at any time. What it
leaves is then what some of its steps leave, and from there the creation leads where it
leads from the beginning: a step that is taken again changes nothing, and a step that is
left out the next time has been taken already.
-/

namespace SearchStore

variable {σ α β : Type}

/-- What goes wrong with a request: the error that it is answered with, and whether it is
carried out nevertheless. -/
structure Fault where
  error : EngineError
  carriedOut : Bool
  duration : Nat := 0

abbrev Faults := Nat → Option Fault

def Engine.faulty (engine : Engine σ) : Engine (σ × Faults) where
  respond call state :=
    let (answer, next) := engine.respond call state.1
    let later : Faults := fun n => state.2 (n + 1)
    match state.2 0 with
    | none => (answer, (next, later))
    | some fault =>
      ({ outcome := .error fault.error, duration := fault.duration },
        (if fault.carriedOut then next else state.1, later))

namespace Repository

open SearchStore.Repository.Action

inductive Partly (repo : Repository σ) (before : Cluster) : Cluster → Prop
  | untouched : Partly repo before before
  | withPolicy (hrollover : repo.options.useRolloverAlias = true)
      (hunknown : before.knows repo.index = false) : Partly repo before (repo.withPolicy before)
  | prepared : Partly repo before (repo.prepared before)
  | created : Partly repo before (repo.created before)

section Steps

variable (repo : Repository σ) (cluster : Cluster)

theorem hasPolicy_withPolicy : repo.hasPolicy (repo.withPolicy cluster) = true := by
  unfold withPolicy
  split
  · assumption
  · rw [hasPolicy, policyPut, Cluster.lookup_putLifecycle, if_pos rfl]
    rfl

theorem withPolicy_of_hasPolicy (h : repo.hasPolicy cluster = true) :
    repo.withPolicy cluster = cluster := by
  rw [withPolicy, if_pos h]

theorem prepared_of_unknown (hrollover : repo.options.useRolloverAlias = true)
    (hunknown : cluster.knows repo.index = false) :
    repo.prepared cluster = (repo.withPolicy cluster).after repo.templatePut := by
  simp [prepared, hrollover, hunknown]

/-- Nothing is prepared for an alias that is known. -/
theorem prepared_of_known (h : repo.options.useRolloverAlias = true →
    cluster.knows repo.index = true) : repo.prepared cluster = cluster := by
  cases hrollover : repo.options.useRolloverAlias with
  | false => simp [prepared, hrollover]
  | true => simp [prepared, h hrollover]

theorem prepared_withPolicy (hrollover : repo.options.useRolloverAlias = true)
    (hunknown : cluster.knows repo.index = false) :
    repo.prepared (repo.withPolicy cluster) = repo.prepared cluster := by
  have hstill : (repo.withPolicy cluster).knows repo.index = false := by
    rw [knows_withPolicy, hunknown]
  have hthere := repo.hasPolicy_withPolicy cluster
  rw [prepared_of_unknown _ _ hrollover hstill, prepared_of_unknown _ _ hrollover hunknown,
    withPolicy_of_hasPolicy _ _ hthere]

theorem prepared_prepared : repo.prepared (repo.prepared cluster) = repo.prepared cluster := by
  by_cases hmissing : repo.options.useRolloverAlias = true ∧ cluster.knows repo.index = false
  · obtain ⟨hrollover, hunknown⟩ := hmissing
    have hstill : (repo.prepared cluster).knows repo.index = false := by
      rw [knows_prepared, hunknown]
    have hthere : repo.hasPolicy (repo.prepared cluster) = true := by
      rw [prepared_of_unknown _ _ hrollover hunknown]
      exact repo.hasPolicy_withPolicy cluster
    rw [prepared_of_unknown _ _ hrollover hstill, withPolicy_of_hasPolicy _ _ hthere,
      prepared_of_unknown _ _ hrollover hunknown]
    exact Cluster.after_after _ rfl
  · have hknown : repo.options.useRolloverAlias = true → cluster.knows repo.index = true := by
      intro hrollover
      by_contra hunknown
      exact hmissing ⟨hrollover, Bool.eq_false_iff.mpr hunknown⟩
    rw [prepared_of_known _ _ hknown, prepared_of_known _ _ hknown]

/-- What has been created is known by the name of the repository's index. -/
theorem knows_index_create_target :
    (cluster.create repo.target repo.targetBody).knows repo.index = true := by
  rw [Cluster.knows_create, Bool.or_eq_true]
  right
  cases hrollover : repo.options.useRolloverAlias with
  | false =>
    have htarget : repo.target = repo.index := by simp [target, hrollover]
    rw [← htarget]
    exact (IndexEntry.create repo.target repo.targetBody).answersTo_name
  | true =>
    have hbehind := IndexEntry.standsBehind_of_isWritten (isWritten_create_target hrollover)
    simp [IndexEntry.answersTo, hbehind]

/-- To create the index again changes nothing. -/
theorem created_created : repo.created (repo.created cluster) = repo.created cluster := by
  have hsettled : repo.prepared (repo.created cluster) = repo.created cluster := by
    cases htaken : (repo.prepared cluster).knows repo.target with
    | true =>
      rw [created, creation, Cluster.createIndex_of_knows _ _ _ htaken]
      exact repo.prepared_prepared cluster
    | false =>
      rw [created, creation, Cluster.createIndex_of_not_knows _ _ _ htaken]
      exact repo.prepared_of_known _ fun _ => repo.knows_index_create_target _
  rw [created, hsettled, created]
  exact Cluster.after_after _ rfl

theorem knows_target_created : (repo.created cluster).knows repo.target = true :=
  Cluster.knows_createIndex_self _ _ _

variable {repo} {cluster} {left : Cluster}

/-- After some first steps the creation leads where it leads from the beginning. -/
theorem Partly.created_eq (h : repo.Partly cluster left) :
    repo.created left = repo.created cluster := by
  cases h with
  | untouched => rfl
  | withPolicy hrollover hunknown =>
    rw [Repository.created, Repository.created, prepared_withPolicy _ _ hrollover hunknown]
  | prepared => rw [Repository.created, Repository.created, prepared_prepared]
  | created => exact repo.created_created cluster

theorem lookup_withPolicy {policy : String} {body : Json}
    (h : cluster.policies.lookup policy = some body) :
    (repo.withPolicy cluster).policies.lookup policy = some body := by
  cases hhas : repo.hasPolicy cluster with
  | true => rwa [withPolicy_of_hasPolicy _ _ hhas]
  | false =>
    have hother : policy ≠ repo.lifecyclePolicy := by
      intro heq
      rw [hasPolicy, ← heq, h] at hhas
      cases hhas
    rwa [withPolicy, hhas, if_neg Bool.false_ne_true, policyPut, Cluster.lookup_putLifecycle,
      if_neg hother]

theorem lookup_prepared {policy : String} {body : Json}
    (h : cluster.policies.lookup policy = some body) :
    (repo.prepared cluster).policies.lookup policy = some body := by
  unfold prepared
  split
  · exact lookup_withPolicy h
  · exact h

/-- No step puts a policy in the place of another. -/
theorem Partly.lookup_eq (h : repo.Partly cluster left) {policy : String} {body : Json}
    (hthere : cluster.policies.lookup policy = some body) :
    left.policies.lookup policy = some body := by
  cases h with
  | untouched => exact hthere
  | withPolicy => exact lookup_withPolicy hthere
  | prepared => exact lookup_prepared hthere
  | created =>
    rw [Repository.created, creation, Cluster.policies_createIndex]
    exact lookup_prepared hthere

end Steps

/-- What an operation leaves, whatever goes wrong, and what it leaves with a result. -/
def Leaves (cluster : σ → Cluster) (before : Cluster) (action : Action (σ × Faults) α)
    (left : Cluster → Prop) (done : α → Cluster → Prop) : Prop :=
  ∀ session : Session (EngineState (σ × Faults)), cluster session.state.engine.1 = before →
    left (cluster (action session).2.state.engine.1) ∧
      ∀ a, (action session).1 = .ok a → done a (cluster (action session).2.state.engine.1)

namespace Leaves

variable {cluster : σ → Cluster} {before : Cluster} {left left' : Cluster → Prop}
  {done done' : α → Cluster → Prop} {doneNext : β → Cluster → Prop}

theorem mono {action : Action (σ × Faults) α} (h : Leaves cluster before action left done)
    (hleft : ∀ after, left after → left' after)
    (hdone : ∀ a after, done a after → done' a after) :
    Leaves cluster before action left' done' := by
  intro session hbefore
  obtain ⟨hends, hresult⟩ := h session hbefore
  exact ⟨hleft _ hends, fun a ha => hdone a _ (hresult a ha)⟩

theorem pure (a : α) (hleft : left before) (hdone : done a before) :
    Leaves cluster before (Pure.pure a : Action (σ × Faults) α) left done := by
  intro session hbefore
  subst hbefore
  refine ⟨hleft, ?_⟩
  intro given hgiven
  cases hgiven
  exact hdone

theorem bind {action : Action (σ × Faults) α} {next : α → Action (σ × Faults) β}
    (h : Leaves cluster before action left done)
    (hnext : ∀ a middle, done a middle → Leaves cluster middle (next a) left doneNext) :
    Leaves cluster before (action >>= next) left doneNext := by
  intro session hbefore
  obtain ⟨hends, hresult⟩ := h session hbefore
  rw [run_bind]
  cases hrun : action session with
  | mk result later =>
    rw [hrun] at hends hresult
    cases result with
    | error error => exact ⟨hends, nofun⟩
    | ok a => exact hnext a _ (hresult a rfl) later rfl

end Leaves

/-- What a call that registers something may leave: it is carried out or not. -/
def MayLeave (before : Cluster) (call : Engine.Call) (left : Cluster) : Prop :=
  left = before ∨ left = before.after call

def Answered (engine : Engine σ) (cluster : σ → Cluster) (before : Cluster) (call : Engine.Call)
    (answer : call.Answer) (left : Cluster) : Prop :=
  left = before.after call ∧
    ∃ state, MayLeave before call (cluster state) ∧ engine.answer call state = .ok answer

theorem execute_eq_ok_of_call {repo : Repository σ} {call : Engine.Call} {answer : call.Answer}
    {session : Session (EngineState σ)} (h : (repo.call call session).1 = .ok answer) :
    (repo.retry.execute repo.shouldRetry (fun _ now => repo.engine.attempt call now) session).1 =
      .ok answer :=
  Except.mapError_eq_ok_iff.mp h

section Creation

variable (repo : Repository σ) {cluster : σ → Cluster}
  (hregisters : repo.engine.RegistersIndices cluster) (before : Cluster)
include hregisters

/-- One attempt at a call that registers something, whether or not it is the first one
that is carried out. -/
theorem attempt_faulty {call : Engine.Call} (hcall : call.registers = true) (now : Nat)
    {state : EngineState (σ × Faults)} (h : MayLeave before call (cluster state.engine.1)) :
    MayLeave before call
        (cluster (repo.engine.faulty.attempt call now state).2.engine.1) ∧
      ∀ answer, (repo.engine.faulty.attempt call now state).1.outcome = .ok answer →
        Answered repo.engine cluster before call answer
          (cluster (repo.engine.faulty.attempt call now state).2.engine.1) := by
  -- Carried out for the first time or again, the call leaves the same.
  have hcarried : cluster (repo.engine.respond call state.engine.1).2 = before.after call := by
    rw [hregisters.cluster_eq call state.engine.1 hcall]
    rcases h with hfirst | hagain
    · rw [hfirst]
    · rw [hagain, before.after_after hcall]
  cases hfault : state.engine.2 0 with
  | none =>
    simp only [Engine.attempt, Engine.faulty, hfault]
    refine ⟨.inr hcarried, ?_⟩
    intro answer hanswer
    exact ⟨hcarried, state.engine.1, h, Except.mapError_eq_ok_iff.mp hanswer⟩
  | some fault =>
    simp only [Engine.attempt, Engine.faulty, hfault]
    constructor
    · cases fault.carriedOut with
      | false => exact h
      | true => exact .inr hcarried
    · intro answer hanswer
      cases hanswer

/-- A call that registers something, with all its attempts. -/
theorem leaves_call (call : Engine.Call) (hcall : call.registers = true) :
    Leaves cluster before ((repo.withEngine repo.engine.faulty).call call)
      (MayLeave before call) (Answered repo.engine cluster before call) := by
  have hinvariant : Task.AttemptInvariant repo.retry repo.shouldRetry
      (fun _ now => repo.engine.faulty.attempt call now)
      (fun _ state => MayLeave before call (cluster state.engine.1))
      (fun result state => MayLeave before call (cluster state.engine.1) ∧
        ∀ answer, result = .ok answer →
          Answered repo.engine cluster before call answer (cluster state.engine.1)) := {
    cancelled := fun _ _ h => ⟨h, nofun⟩
    interrupted := fun _ now _ h => ⟨(attempt_faulty repo hregisters before hcall now h).1, nofun⟩
    stopped := by
      intro _ now state _ h _
      obtain ⟨hleft, hdone⟩ := attempt_faulty repo hregisters before hcall now h
      refine ⟨hleft, ?_⟩
      intro answer hanswer
      exact hdone answer (Except.mapError_eq_ok_iff.mp hanswer)
    retried := fun _ now _ _ h _ => (attempt_faulty repo hregisters before hcall now h).1 }
  intro session hbefore
  have hended := RetryPolicy.execute_induction hinvariant session (.inl hbefore)
  refine ⟨hended.1, ?_⟩
  intro answer hanswer
  exact hended.2 answer (execute_eq_ok_of_call hanswer)

theorem leaves_indexExists (name : String) :
    Leaves cluster before ((repo.withEngine repo.engine.faulty).indexExists name)
      (fun left => left = before)
      (fun known left => known = before.knows name ∧ left = before) := by
  refine (leaves_call repo hregisters before _ rfl).mono ?_ ?_
  · intro left hleft
    exact hleft.elim id id
  · intro known left hanswered
    obtain ⟨hleft, state, hstate, hanswer⟩ := hanswered
    rw [hregisters.indexExists, hstate.elim id id] at hanswer
    cases hanswer
    exact ⟨rfl, hleft⟩

theorem leaves_createUnlessExists (name : String) (body : Json) :
    Leaves cluster before ((repo.withEngine repo.engine.faulty).createUnlessExists name body)
      (MayLeave before (.createIndex name body))
      (fun _ left => left = before.after (.createIndex name body)) := by
  have hask := leaves_indexExists repo hregisters before name
  refine (hask.mono (fun _ => .inl) fun _ _ => id).bind ?_
  intro known middle hknown
  obtain ⟨rfl, rfl⟩ := hknown
  cases htaken : middle.knows name with
  | true => exact .pure false (.inl rfl) (Cluster.createIndex_of_knows _ _ _ htaken).symm
  | false =>
    have hcreate := leaves_call repo hregisters middle (.createIndex name body) rfl
    refine hcreate.bind ?_
    intro _ left hanswered
    exact .pure true (.inr hanswered.1) hanswered.1

theorem leaves_getLifecycle :
    Leaves cluster before
      ((repo.withEngine repo.engine.faulty).call (.getLifecycle repo.lifecyclePolicy))
      (fun left => left = before)
      (fun found left => found.isNone = !repo.hasPolicy before ∧ left = before) := by
  refine (leaves_call repo hregisters before _ rfl).mono ?_ ?_
  · intro left hleft
    exact hleft.elim id id
  · intro found left hanswered
    obtain ⟨hleft, state, hstate, hanswer⟩ := hanswered
    obtain ⟨given, hgiven, hsome⟩ := hregisters.getLifecycle repo.lifecyclePolicy state
    rw [hstate.elim id id] at hsome
    rw [hgiven] at hanswer
    cases hanswer
    have hnone : found.isNone = !repo.hasPolicy before := by
      rw [← Option.not_isSome, hsome]
      rfl
    exact ⟨hnone, hleft⟩

theorem leaves_templatePut (hrollover : repo.options.useRolloverAlias = true)
    (hunknown : before.knows repo.index = false) :
    Leaves cluster (repo.withPolicy before)
      ((repo.withEngine repo.engine.faulty).call repo.templatePut)
      (repo.Partly before) (fun _ left => left = repo.prepared before) := by
  have hprepared := repo.prepared_of_unknown before hrollover hunknown
  refine (leaves_call repo hregisters (repo.withPolicy before) _ rfl).mono ?_ ?_
  · intro left hleft
    rcases hleft with hleft | hleft
    · rw [hleft]
      exact .withPolicy hrollover hunknown
    · rw [hleft, ← hprepared]
      exact .prepared
  · intro _ left hanswered
    rw [hprepared]
    exact hanswered.1

theorem leaves_prepareRollover (hrollover : repo.options.useRolloverAlias = true)
    (hunknown : before.knows repo.index = false) :
    Leaves cluster before (repo.withEngine repo.engine.faulty).prepareRollover
      (repo.Partly before) (fun _ left => left = repo.prepared before) := by
  have htemplate := leaves_templatePut repo hregisters before hrollover hunknown
  have hlook := leaves_getLifecycle repo hregisters before
  refine Leaves.bind (hlook.mono ?_ fun _ _ => id) ?_
  · intro left hleft
    rw [hleft]
    exact .untouched
  · intro found middle hfound
    obtain ⟨hnone, hmiddle⟩ := hfound
    rw [hmiddle]
    cases hhas : repo.hasPolicy before with
    | true =>
      rw [withPolicy_of_hasPolicy _ _ hhas] at htemplate
      simp only [hnone, hhas]
      exact htemplate
    | false =>
      have hwith : repo.withPolicy before = before.after repo.policyPut := by
        simp [withPolicy, hhas]
      have hput := leaves_call repo hregisters before repo.policyPut rfl
      simp only [hnone, hhas]
      refine Leaves.bind (hput.mono ?_ fun _ _ => id) ?_
      · intro left hleft
        rcases hleft with hleft | hleft
        · rw [hleft]
          exact .untouched
        · rw [hleft, ← hwith]
          exact .withPolicy hrollover hunknown
      · intro _ left hanswered
        rw [hanswered.1, ← hwith]
        exact htemplate

/-- The creation of the index, whatever goes wrong. -/
theorem leaves_createIndex :
    Leaves cluster before (repo.withEngine repo.engine.faulty).createIndex (repo.Partly before)
      (fun _ left => left = repo.created before) := by
  have hcreate : Leaves cluster (repo.prepared before)
      ((repo.withEngine repo.engine.faulty).createUnlessExists repo.target repo.targetBody)
      (repo.Partly before) (fun _ left => left = repo.created before) := by
    refine (leaves_createUnlessExists repo hregisters (repo.prepared before) _ _).mono ?_
      fun _ _ => id
    intro left hleft
    rcases hleft with hleft | hleft
    · rw [hleft]
      exact .prepared
    · rw [hleft]
      exact .created
  cases hrollover : repo.options.useRolloverAlias with
  | false =>
    rw [prepared_of_known _ _ (by simp [hrollover])] at hcreate
    rw [createIndex_of_plain (repo.withEngine repo.engine.faulty) hrollover]
    exact hcreate
  | true =>
    have hask := leaves_indexExists repo hregisters before repo.index
    rw [createIndex_of_rollover (repo.withEngine repo.engine.faulty) hrollover]
    refine Leaves.bind (hask.mono ?_ fun _ _ => id) ?_
    · intro left hleft
      rw [hleft]
      exact .untouched
    · intro known middle hknown
      obtain ⟨hknown, hmiddle⟩ := hknown
      rw [hknown, hmiddle]
      cases hthere : before.knows repo.index with
      | true =>
        rw [prepared_of_known _ _ fun _ => hthere] at hcreate
        exact hcreate
      | false =>
        have hprepare := leaves_prepareRollover repo hregisters before hrollover hthere
        refine hprepare.bind ?_
        intro _ left hleft
        rw [hleft]
        exact hcreate

end Creation

/-- How the creation of an index goes on after it was stopped: it leaves what one creation
from the beginning leaves, where the index is there, and to create the index once more
changes nothing. -/
structure Resumes (repo : Repository σ) (cluster : σ → Cluster) (before : Cluster)
    (fresh resumed again : Session (EngineState σ)) : Prop where
  result_eq : (repo.createIndex resumed).1 =
    .ok (!(cluster resumed.state.engine).knows repo.target)
  cluster_eq : cluster (repo.createIndex resumed).2.state.engine =
    cluster (repo.createIndex fresh).2.state.engine
  created_eq : cluster (repo.createIndex fresh).2.state.engine = repo.created before
  known : (repo.created before).knows repo.target = true
  again_result_eq : (repo.createIndex again).1 = .ok false
  again_cluster_eq : cluster (repo.createIndex again).2.state.engine = cluster again.state.engine
  policies : ∀ policy body, before.policies.lookup policy = some body →
    (cluster resumed.state.engine).policies.lookup policy = some body ∧
      (cluster again.state.engine).policies.lookup policy = some body

/-- Wherever the creation of an index was stopped, by errors or by cancellation, and whether
or not the requests that went wrong were carried out, it can be taken up again. -/
theorem createIndex_resumes (repo : Repository σ) (cluster : σ → Cluster)
    (hregisters : repo.engine.RegistersIndices cluster)
    (stopped : Session (EngineState (σ × Faults)))
    (fresh resumed again : Session (EngineState σ))
    (hfresh : fresh.state.engine = stopped.state.engine.1)
    (hresumed : resumed.state.engine =
      ((repo.withEngine repo.engine.faulty).createIndex stopped).2.state.engine.1)
    (hagain : again.state.engine = (repo.createIndex resumed).2.state.engine)
    (huncancelled : fresh.cancelledAt = none ∧ resumed.cancelledAt = none ∧
      again.cancelledAt = none) :
    repo.Resumes cluster (cluster stopped.state.engine.1) fresh resumed again := by
  obtain ⟨hcalm, hcalmResumed, hcalmAgain⟩ := huncancelled
  -- All that counts of the run that was stopped is that it took some first steps.
  have hleft := (leaves_createIndex repo hregisters _ stopped rfl).1
  rw [← hresumed, ← hfresh] at hleft
  have hfirst := performs_createIndex repo hregisters _ fresh hcalm rfl
  have hsecond := performs_createIndex repo hregisters _ resumed hcalmResumed rfl
  have hthird := performs_createIndex repo hregisters _ again hcalmAgain rfl
  have hsame : cluster again.state.engine = repo.created (cluster fresh.state.engine) := by
    rw [hagain, hsecond.cluster_eq, hleft.created_eq]
  have hthere := repo.knows_target_created (cluster fresh.state.engine)
  rw [← hfresh]
  constructor
  · obtain ⟨made, hmade, hunless⟩ := hsecond.result
    rw [hmade, hunless]
  · rw [hsecond.cluster_eq, hfirst.cluster_eq, hleft.created_eq]
  · exact hfirst.cluster_eq
  · exact hthere
  · obtain ⟨made, hmade, hunless⟩ := hthird.result
    rw [hmade, hunless, hsame, hthere]
    rfl
  · rw [hthird.cluster_eq, hsame]
    exact repo.created_created _
  · intro policy body hpolicy
    rw [hsame]
    exact ⟨hleft.lookup_eq hpolicy, Partly.created.lookup_eq hpolicy⟩

/-- The answers get lost from the third request on, as if the engine had gone away behind
the policy. -/
def answersLost : Faults := fun n =>
  if n < 2 then none else some { error := .transport "connection reset", carriedOut := true }

def unanswered : Session (EngineState (Cluster × Faults)) :=
  .start { engine := ({}, answersLost) } none

def later (engine : Cluster) : Session (EngineState Cluster) := .start { engine } none

/-- The policy is put, but the creation fails; then it is taken up again. -/
theorem createIndex_resumes_unanswered :
    let stopped := (journal.withEngine Engine.catalog.faulty).createIndex unanswered
    let resumed := later stopped.2.state.engine.1
    let again := later (journal.createIndex resumed).2.state.engine
    stopped.1 = .error (.engine (.transport "connection reset")) ∧
      stopped.2.state.engine.1.policies.length = 1 ∧
      journal.Resumes id {} (later {}) resumed again := by
  intro stopped resumed again
  have hends : stopped.1 = .error (.engine (.transport "connection reset")) := by
    decide +kernel
  have hpolicy : stopped.2.state.engine.1.policies.length = 1 := by
    decide +kernel
  have hresumes := createIndex_resumes journal id Engine.isCluster_catalog.toRegistersIndices
    unanswered (later {}) resumed again rfl rfl rfl ⟨rfl, rfl, rfl⟩
  exact ⟨hends, hpolicy, hresumes⟩

end Repository

end SearchStore
