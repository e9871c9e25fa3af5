import SearchStore.Proofs.Engine.Cluster
import SearchStore.Proofs.Repository.Action
import SearchStore.Proofs.Retry.Delivery
import SearchStore.Repository.Index

/-!
The creation of the index of a repository, as far as it depends on what the engine
already knows. Without faults the calls and what they leave are determined by that: a
policy is put only where there is none, policy and template only where the alias is
unknown, and the index is created unless its name is taken.

The name of the first index is asked for by itself, whether or not the alias is known.
So an alias gets a second index that is written as soon as the first one is gone, and
never otherwise.
-/

namespace SearchStore

variable {σ α β : Type}

namespace Repository

open SearchStore.Repository.Action

section Plan

variable (repo : Repository σ) (cluster : Cluster)

def target : String := if repo.options.useRolloverAlias then repo.firstIndex else repo.index

def targetBody : Json :=
  if repo.options.useRolloverAlias then
    .obj [("settings", repo.indexSettings),
      ("aliases", .obj [(repo.index, .obj [("is_write_index", .bool true)])])]
  else .obj [("settings", repo.indexSettings)]

def creation : Engine.Call := .createIndex repo.target repo.targetBody

def policyPut : Engine.Call := .putLifecycle repo.lifecyclePolicy repo.lifecycleBody

def templatePut : Engine.Call := .putIndexTemplate repo.options.pattern repo.templateBody

def hasPolicy : Bool := (cluster.policies.lookup repo.lifecyclePolicy).isSome

def withPolicy : Cluster := if repo.hasPolicy cluster then cluster else cluster.after repo.policyPut

/-- What is left by the preparations for an alias that is not known. -/
def prepared : Cluster :=
  if repo.options.useRolloverAlias && !cluster.knows repo.index then
    (repo.withPolicy cluster).after repo.templatePut
  else cluster

def created : Cluster := (repo.prepared cluster).after repo.creation

def preparationCalls : List Engine.Call :=
  .getLifecycle repo.lifecyclePolicy ::
    ((if repo.hasPolicy cluster then [] else [repo.policyPut]) ++ [repo.templatePut])

def creationCalls : List Engine.Call :=
  (if repo.options.useRolloverAlias then
    .indexExists repo.index ::
      (if cluster.knows repo.index then [] else repo.preparationCalls cluster)
  else []) ++
    .indexExists repo.target :: (if cluster.knows repo.target then [] else [repo.creation])

theorem createIndex_of_plain (h : repo.options.useRolloverAlias = false) :
    repo.createIndex = repo.createUnlessExists repo.target repo.targetBody := by
  simp [createIndex, target, targetBody, h]

theorem createIndex_of_rollover (h : repo.options.useRolloverAlias = true) :
    repo.createIndex = repo.indexExists repo.index >>= fun known =>
      if !known then
        repo.prepareRollover >>= fun _ => repo.createUnlessExists repo.target repo.targetBody
      else repo.createUnlessExists repo.target repo.targetBody := by
  simp [createIndex, target, targetBody, h]

theorem knows_withPolicy (name : String) :
    (repo.withPolicy cluster).knows name = cluster.knows name := by
  unfold withPolicy
  split <;> rfl

theorem knows_prepared (name : String) :
    (repo.prepared cluster).knows name = cluster.knows name := by
  unfold prepared
  split
  · exact repo.knows_withPolicy cluster name
  · rfl

end Plan

/-- How an operation ends that is neither cancelled nor refused: what it gives, the calls
that it has made, and what it leaves registered. -/
structure Performed (cluster : σ → Cluster) (session : Session (EngineState σ))
    (ended : Except RepositoryError α × Session (EngineState σ)) (gives : α → Prop)
    (calls : List Engine.Call) (left : Cluster) : Prop where
  result : ∃ a, ended.1 = .ok a ∧ gives a
  calls_eq : ended.2.state.calls.map Prod.snd =
    calls.reverse ++ session.state.calls.map Prod.snd
  cluster_eq : cluster ended.2.state.engine = left
  cancelledAt_eq : ended.2.cancelledAt = none

/-- Wherever the same is registered, an operation that is not cancelled goes the same way. -/
def Performs (cluster : σ → Cluster) (before : Cluster) (action : Action σ α) (gives : α → Prop)
    (calls : List Engine.Call) (left : Cluster) : Prop :=
  ∀ session : Session (EngineState σ), session.cancelledAt = none →
    cluster session.state.engine = before →
    Performed cluster session (action session) gives calls left

namespace Performs

variable {cluster : σ → Cluster} {before middle left : Cluster} {gives : α → Prop}
  {calls others : List Engine.Call}

theorem pure (a : α) : Performs cluster before (Pure.pure a : Action σ α) (· = a) [] before := by
  intro session huncancelled hbefore
  exact ⟨⟨a, rfl, rfl⟩, rfl, hbefore, huncancelled⟩

theorem bind {action : Action σ α} {next : α → Action σ β} {givesNext : β → Prop}
    (h : Performs cluster before action gives calls middle)
    (hnext : ∀ a, gives a → Performs cluster middle (next a) givesNext others left) :
    Performs cluster before (action >>= next) givesNext (calls ++ others) left := by
  intro session huncancelled hbefore
  have hfirst := h session huncancelled hbefore
  obtain ⟨a, hresult, hgives⟩ := hfirst.result
  have hsecond := hnext a hgives (action session).2 hfirst.cancelledAt_eq hfirst.cluster_eq
  have hrun : action session = (.ok a, (action session).2) := Prod.ext hresult rfl
  rw [run_bind_ok hrun]
  constructor
  · exact hsecond.result
  · rw [hsecond.calls_eq, hfirst.calls_eq, List.reverse_append, List.append_assoc]
  · exact hsecond.cluster_eq
  · exact hsecond.cancelledAt_eq

end Performs

theorem performs_answered {repo : Repository σ} {cluster : σ → Cluster} {before : Cluster}
    {call : Engine.Call} {gives : call.Answer → Prop}
    (hcalm : ∀ state, (repo.engine.respond call state).1.cancels = false)
    (hafter : ∀ state, cluster (repo.engine.respond call state).2 = (cluster state).after call)
    (hanswer : ∀ state, cluster state = before →
      ∃ answer, repo.engine.answer call state = .ok answer ∧ gives answer) :
    Performs cluster before (repo.call call) gives [call] (before.after call) := by
  intro session huncancelled hbefore
  obtain ⟨answer, hok, hgives⟩ := hanswer session.state.engine hbefore
  have hleft := hafter session.state.engine
  rw [hbefore] at hleft
  rw [call_of_answer repo huncancelled (hcalm session.state.engine) hok]
  exact ⟨⟨answer, rfl, hgives⟩, rfl, hleft, huncancelled⟩

section Creation

variable (repo : Repository σ) {cluster : σ → Cluster}
  (hregisters : repo.engine.RegistersIndices cluster) (before : Cluster)
include hregisters

theorem performs_call {call : Engine.Call} {gives : call.Answer → Prop}
    (hcall : call.registers = true)
    (hanswer : ∀ state, cluster state = before →
      ∃ answer, repo.engine.answer call state = .ok answer ∧ gives answer) :
    Performs cluster before (repo.call call) gives [call] (before.after call) :=
  performs_answered (hregisters.not_cancels call)
    (fun state => hregisters.cluster_eq call state hcall) hanswer

theorem performs_indexExists (name : String) :
    Performs cluster before (repo.indexExists name) (· = before.knows name) [.indexExists name]
      before := by
  refine performs_call repo hregisters before rfl ?_
  intro state hstate
  have hanswer := hregisters.indexExists name state
  rw [hstate] at hanswer
  exact ⟨_, hanswer, rfl⟩

/-- The policy is looked for and put unless there is one, then the template is put. -/
theorem performs_prepareRollover :
    Performs cluster before repo.prepareRollover (fun _ => True) (repo.preparationCalls before)
      ((repo.withPolicy before).after repo.templatePut) := by
  have hlook : Performs cluster before (repo.call (.getLifecycle repo.lifecyclePolicy))
      (fun found => found.isSome = repo.hasPolicy before) [.getLifecycle repo.lifecyclePolicy]
      before := by
    refine performs_call repo hregisters before rfl ?_
    intro state hstate
    obtain ⟨found, hfound, hsome⟩ := hregisters.getLifecycle repo.lifecyclePolicy state
    rw [hstate] at hsome
    exact ⟨found, hfound, hsome⟩
  have hpolicy : Performs cluster before (repo.call repo.policyPut) (fun _ => True)
      [repo.policyPut] (before.after repo.policyPut) :=
    performs_call repo hregisters before rfl fun state _ =>
      ⟨(), hregisters.putLifecycle _ _ state, trivial⟩
  have htemplate (middle : Cluster) : Performs cluster middle (repo.call repo.templatePut)
      (fun _ => True) [repo.templatePut] (middle.after repo.templatePut) :=
    performs_call repo hregisters middle rfl fun state _ =>
      ⟨(), hregisters.putIndexTemplate _ _ state, trivial⟩
  refine hlook.bind ?_
  intro found hfound
  cases hhas : repo.hasPolicy before with
  | true =>
    have hthere : found.isNone = false := by
      rw [← Option.not_isSome, hfound, hhas]
      rfl
    simp only [hthere, withPolicy, hhas]
    exact htemplate before
  | false =>
    have hmissing : found.isNone = true := by
      rw [← Option.not_isSome, hfound, hhas]
      rfl
    simp only [hmissing, withPolicy, hhas]
    exact hpolicy.bind fun _ _ => htemplate _

theorem performs_createUnlessExists (name : String) (body : Json) :
    Performs cluster before (repo.createUnlessExists name body) (· = !before.knows name)
      (.indexExists name :: if before.knows name then [] else [.createIndex name body])
      (before.after (.createIndex name body)) := by
  refine (performs_indexExists repo hregisters before name).bind ?_
  intro found hfound
  subst hfound
  cases hknown : before.knows name with
  | true =>
    rw [Cluster.createIndex_of_knows _ _ _ hknown]
    exact .pure false
  | false =>
    have hcreate : Performs cluster before (repo.call (.createIndex name body)) (fun _ => True)
        [.createIndex name body] (before.after (.createIndex name body)) := by
      refine performs_call repo hregisters before rfl ?_
      intro state hstate
      rw [← hstate] at hknown
      exact ⟨(), hregisters.createIndex name body state hknown, trivial⟩
    exact hcreate.bind fun _ _ => .pure true

/-- The creation of the index of a repository where nothing goes wrong. -/
theorem performs_createIndex :
    Performs cluster before repo.createIndex (· = !before.knows repo.target)
      (repo.creationCalls before) (repo.created before) := by
  have hcreate (middle : Cluster) :=
    performs_createUnlessExists repo hregisters middle repo.target repo.targetBody
  have hlast := hcreate (repo.prepared before)
  rw [knows_prepared] at hlast
  cases hrollover : repo.options.useRolloverAlias with
  | false =>
    rw [createIndex_of_plain repo hrollover]
    simpa [creationCalls, created, creation, prepared, hrollover] using hlast
  | true =>
    rw [createIndex_of_rollover repo hrollover, creationCalls, hrollover]
    refine (performs_indexExists repo hregisters before repo.index).bind ?_
    intro known hknown
    subst hknown
    cases hknown : before.knows repo.index with
    | true =>
      simpa [created, creation, prepared, hrollover, hknown] using hlast
    | false =>
      have hprepare := performs_prepareRollover repo hregisters before
      have hprepared : repo.prepared before =
          (repo.withPolicy before).after repo.templatePut := by
        simp [prepared, hrollover, hknown]
      rw [hprepared] at hlast
      rw [created, hprepared]
      exact hprepare.bind fun _ _ => hlast

end Creation

section Alias

variable {repo : Repository σ} (hrollover : repo.options.useRolloverAlias = true)

/-- What the preparations leave of the indices. -/
theorem indices_prepared (repo : Repository σ) (cluster : Cluster) :
    (repo.prepared cluster).indices = cluster.indices := by
  unfold prepared withPolicy
  split
  · split <;> rfl
  · rfl

include hrollover

theorem target_of_rollover : repo.target = repo.firstIndex := by
  rw [target, if_pos hrollover]

/-- The first index is written under the alias. -/
theorem isWritten_create_target :
    (IndexEntry.create repo.target repo.targetBody).isWritten repo.index = true := by
  simp [IndexEntry.create, IndexEntry.isWritten, IndexEntry.aliasesOf, targetBody, hrollover,
    Json.get?, Json.asObject?, Json.asBool?, List.lookup_cons]

/-- The first index becomes one more that is written, unless its name is taken. -/
theorem writeIndices_created (cluster : Cluster) :
    (repo.created cluster).writeIndices repo.index =
      cluster.writeIndices repo.index ++
        if cluster.knows repo.firstIndex then [] else [repo.firstIndex] := by
  have hindices := repo.indices_prepared cluster
  have htarget := target_of_rollover hrollover
  cases hknown : cluster.knows repo.firstIndex with
  | true =>
    have hthere : (repo.prepared cluster).knows repo.target = true := by
      rw [knows_prepared, htarget, hknown]
    rw [created, creation, Cluster.createIndex_of_knows _ _ _ hthere]
    simp [Cluster.writeIndices, hindices]
  | false =>
    have hfree : (repo.prepared cluster).knows repo.target = false := by
      rw [knows_prepared, htarget, hknown]
    have hwritten := isWritten_create_target hrollover
    have hname : (IndexEntry.create repo.target repo.targetBody).name = repo.firstIndex := htarget
    rw [created, creation, Cluster.createIndex_of_not_knows _ _ _ hfree]
    simp [Cluster.writeIndices, Cluster.create, hindices, hwritten, hname]

end Alias

/-- What happens to the indices behind an alias: the repository is asked to create its index,
the engine rolls over to a new index, or an index is removed. -/
inductive AliasEvent where
  | createIndex
  | rollOver (next : IndexEntry)
  | remove (index : String)

/-- What an event makes of a state of the engine. A rollover takes a name that is free. -/
inductive Happens (repo : Repository σ) (cluster : σ → Cluster) : σ → AliasEvent → σ → Prop
  | createIndex {before : σ} (session : Session (EngineState σ))
      (huncancelled : session.cancelledAt = none) (hbefore : session.state.engine = before) :
      Happens repo cluster before .createIndex (repo.createIndex session).2.state.engine
  | rollOver {before after : σ} {next : IndexEntry} (hwritten : next.isWritten repo.index = true)
      (hfree : (cluster before).knows next.name = false)
      (hafter : cluster after = (cluster before).rollOver repo.index next) :
      Happens repo cluster before (.rollOver next) after
  | remove {before after : σ} {index : String}
      (hafter : cluster after = (cluster before).without [index]) :
      Happens repo cluster before (.remove index) after

inductive Course (repo : Repository σ) (cluster : σ → Cluster) (start : σ) :
    List (σ × AliasEvent) → σ → Prop
  | start : Course repo cluster start [] start
  | next {past : List (σ × AliasEvent)} {state after : σ} {event : AliasEvent}
      (h : Course repo cluster start past state)
      (hhappens : Happens repo cluster state event after) :
      Course repo cluster start (past ++ [(state, event)]) after

def WritesOne (repo : Repository σ) (cluster : Cluster) : Prop :=
  (cluster.writeIndices repo.index).length ≤ 1

/-- An index is written under the alias, but the name of the first one is free. -/
def LacksFirst (repo : Repository σ) (cluster : Cluster) : Prop :=
  cluster.writeIndices repo.index ≠ [] ∧ cluster.knows repo.firstIndex = false

section Course

variable {repo : Repository σ} {cluster : σ → Cluster}
  (hregisters : repo.engine.RegistersIndices cluster)
  (hrollover : repo.options.useRolloverAlias = true)
include hregisters hrollover

/-- One event. Only the creation of the index can give the alias another one to write. -/
theorem writesOne_happens {before after : σ} {event : AliasEvent}
    (h : Happens repo cluster before event after) (hone : repo.WritesOne (cluster before)) :
    repo.WritesOne (cluster after) ↔
      (event = .createIndex → ¬ repo.LacksFirst (cluster before)) := by
  cases h with
  | createIndex session huncancelled hbefore =>
    have hperformed := performs_createIndex repo hregisters (cluster before) session
      huncancelled (by rw [hbefore])
    have hwritten := writeIndices_created hrollover (cluster before)
    rw [WritesOne, hperformed.cluster_eq, hwritten]
    unfold WritesOne at hone
    cases hknown : (cluster before).knows repo.firstIndex with
    | true => simpa [LacksFirst, hknown] using hone
    | false => simp [LacksFirst, hknown]
  | rollOver hwritten hfree hafter =>
    have hsingle := Cluster.writeIndices_rollOver (cluster before) hwritten
    simp [WritesOne, hafter, hsingle]
  | @remove _ index hafter =>
    have hless := (cluster before).length_writeIndices_without_le [index] repo.index
    unfold WritesOne at hone
    simp only [WritesOne, hafter]
    constructor
    · intro _ hcreates
      cases hcreates
    · intro _
      omega

/-- Events one after the other. -/
theorem writesOne_course {start last : σ} {past : List (σ × AliasEvent)}
    (h : Course repo cluster start past last) (hone : repo.WritesOne (cluster start)) :
    ((∀ moment ∈ past, repo.WritesOne (cluster moment.1)) ∧ repo.WritesOne (cluster last)) ↔
      ∀ moment ∈ past, moment.2 = .createIndex → ¬ repo.LacksFirst (cluster moment.1) := by
  induction h with
  | start => simpa using hone
  | @next past state after event _ hhappens ih =>
    simp only [List.forall_mem_append, List.forall_mem_singleton]
    constructor
    · intro hall
      obtain ⟨⟨hpast, hstate⟩, hafter⟩ := hall
      have hearlier := ih.mp ⟨hpast, hstate⟩
      have hlast := (writesOne_happens hregisters hrollover hhappens hstate).mp hafter
      exact ⟨hearlier, hlast⟩
    · intro hall
      obtain ⟨hearlier, hlast⟩ := hall
      obtain ⟨hpast, hstate⟩ := ih.mpr hearlier
      have hafter := (writesOne_happens hregisters hrollover hhappens hstate).mpr hlast
      exact ⟨⟨hpast, hstate⟩, hafter⟩

end Course

/-- How the creation of the index ends where an index is written under the alias: nothing
is registered, unless the name of the first index is free. Then that index is created, and
is written as well. -/
structure CreatesMissingFirst (repo : Repository σ) (cluster : σ → Cluster)
    (session : Session (EngineState σ)) : Prop where
  result_eq : (repo.createIndex session).1 =
    .ok (!(cluster session.state.engine).knows repo.firstIndex)
  calls_eq : (repo.createIndex session).2.state.calls.map Prod.snd =
    (Engine.Call.indexExists repo.index :: Engine.Call.indexExists repo.firstIndex ::
        if (cluster session.state.engine).knows repo.firstIndex then []
        else [repo.creation]).reverse ++
      session.state.calls.map Prod.snd
  cluster_eq : cluster (repo.createIndex session).2.state.engine =
    (cluster session.state.engine).after repo.creation
  writeIndices_eq : (cluster (repo.createIndex session).2.state.engine).writeIndices repo.index =
    (cluster session.state.engine).writeIndices repo.index ++
      if (cluster session.state.engine).knows repo.firstIndex then [] else [repo.firstIndex]

/-- Of an alias under which an index is written the first index is created again if it is
gone. So in the course of events no two indices are written under the alias at a time
exactly when none is created in that situation. -/
theorem createIndex_behind_alias (repo : Repository σ) (cluster : σ → Cluster)
    (hregisters : repo.engine.RegistersIndices cluster)
    (hrollover : repo.options.useRolloverAlias = true) :
    (∀ session : Session (EngineState σ), session.cancelledAt = none →
      (cluster session.state.engine).writeIndices repo.index ≠ [] →
      repo.CreatesMissingFirst cluster session) ∧
    ∀ start past last, Course repo cluster start past last → repo.WritesOne (cluster start) →
      (((∀ moment ∈ past, repo.WritesOne (cluster moment.1)) ∧ repo.WritesOne (cluster last)) ↔
        ∀ moment ∈ past, moment.2 = .createIndex → ¬ repo.LacksFirst (cluster moment.1)) := by
  constructor
  · intro session huncancelled hwritten
    have hknown := Cluster.knows_of_writeIndices_ne_nil _ hwritten
    have htarget := target_of_rollover hrollover
    have hperformed := performs_createIndex repo hregisters (cluster session.state.engine) session
      huncancelled rfl
    have hprepared : repo.prepared (cluster session.state.engine) =
        cluster session.state.engine := by
      simp [prepared, hknown]
    obtain ⟨created, hresult, hcreated⟩ := hperformed.result
    constructor
    · rw [hresult, hcreated, htarget]
    · rw [hperformed.calls_eq, creationCalls, hrollover, hknown, htarget]
      rfl
    · rw [hperformed.cluster_eq, Repository.created, hprepared]
    · rw [hperformed.cluster_eq, writeIndices_created hrollover]
  · intro start past last hcourse hone
    exact writesOne_course hregisters hrollover hcourse hone

def journal : Repository Cluster where
  options := { index := "journal", useRolloverAlias := true }
  schema := ⟨"Entry", []⟩
  retry := .ofAttempts 5
  engine := .catalog

/-- The engine has rolled over once, and the first index has been removed. -/
def rolledOver : Session (EngineState Cluster) :=
  .start { engine := { indices := [⟨"journal-000002", .obj [], [("journal", true)]⟩] } } none

/-- The alias comes to have two indices that are written. -/
theorem createIndex_behind_alias_rolled_over :
    (journal.createIndex rolledOver).1 = .ok true ∧
    (journal.createIndex rolledOver).2.state.engine.writeIndices "journal" =
      ["journal-000002", "journal-000001"] ∧
    ¬ journal.WritesOne (journal.createIndex rolledOver).2.state.engine := by
  have hlaws := createIndex_behind_alias journal id Engine.isCluster_catalog.toRegistersIndices rfl
  have hwritten : rolledOver.state.engine.writeIndices "journal" = ["journal-000002"] := by
    decide
  have hfree : rolledOver.state.engine.knows journal.firstIndex = false := by decide
  have hends := hlaws.1 rolledOver rfl (by
    intro hnone
    cases hwritten.symm.trans hnone)
  have hresult : (journal.createIndex rolledOver).1 = .ok (!false) := by
    rw [← hfree]
    exact hends.result_eq
  have hboth : (journal.createIndex rolledOver).2.state.engine.writeIndices "journal" =
      ["journal-000002"] ++ if false then [] else [journal.firstIndex] := by
    rw [← hfree, ← hwritten]
    exact hends.writeIndices_eq
  refine ⟨hresult, hboth, ?_⟩
  intro hone
  have hlength := congrArg List.length hboth
  have hle : ((journal.createIndex rolledOver).2.state.engine.writeIndices "journal").length ≤ 1 :=
    hone
  rw [hlength] at hle
  exact absurd hle (by decide)

end Repository

end SearchStore
