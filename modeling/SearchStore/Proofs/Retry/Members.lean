import SearchStore.Proofs.Retry.SideBySide

/-!
Operations side by side by keys. The step that falls due is that of one of them, and
none of the steps still to come is due before it; what such steps keep holds when all
operations have ended. One operation by itself is run as it is by itself.
-/

namespace SearchStore

variable {κ τ ε α : Type}

namespace Task

theorem isSome_result?_of_mem {members : List (Member τ ε α)} (h : nextDue members = none)
    {member : Member τ ε α} (hmem : member ∈ members) : member.2.result?.isSome := by
  induction members with
  | nil => simp at hmem
  | cons first rest ih =>
    obtain ⟨hhere, hrest⟩ := isSome_result?_of_nextDue_eq_none h
    rcases List.mem_cons.mp hmem with rfl | hmemRest
    · exact hhere
    · exact ih hrest hmemRest

/-- The step that falls due first is that of an operation that has not ended. -/
theorem exists_of_nextDue_eq_some {members : List (Member τ ε α)} {place due : Nat}
    (h : nextDue members = some (place, due)) :
    ∃ before operation task after, members = before ++ (operation, task) :: after ∧
      before.length = place ∧ task.due = due ∧ task.result? = none ∧
        ∀ other ∈ members, other.2.result? = none → due ≤ other.2.due := by
  induction members generalizing place due with
  | nil => simp [nextDue] at h
  | cons member rest ih =>
    obtain ⟨operation, task⟩ := member
    have hhere (hunended : task.result? = none)
        (hleast : ∀ other ∈ rest, other.2.result? = none → task.due ≤ other.2.due) :
        ∀ other ∈ (operation, task) :: rest, other.2.result? = none → task.due ≤ other.2.due := by
      intro other hother hresult
      rcases List.mem_cons.mp hother with rfl | hmem
      · exact Nat.le_refl _
      · exact hleast other hmem hresult
    unfold nextDue at h
    split at h
    · cases h
    · next p d hresult hnext =>
      cases h
      obtain ⟨before, op, found, after, rfl, hlength, hdue, hunended, hleast⟩ := ih hnext
      refine ⟨(operation, task) :: before, op, found, after, rfl, by simp [hlength], hdue,
        hunended, ?_⟩
      intro other hother hother?
      rcases List.mem_cons.mp hother with rfl | hmem
      · simp [hresult] at hother?
      · exact hleast other hmem hother?
    · next hunended hnext =>
      cases h
      refine ⟨[], operation, task, rest, rfl, rfl, rfl, hunended, hhere hunended ?_⟩
      intro other hmem hother
      simpa [hother] using isSome_result?_of_mem hnext hmem
    · next p d hunended hnext =>
      obtain ⟨before, op, found, after, rfl, hlength, hdue, hfound, hleast⟩ := ih hnext
      split at h
      · next hle =>
        cases h
        refine ⟨[], operation, task, _, rfl, rfl, rfl, hunended, hhere hunended ?_⟩
        intro other hmem hother
        exact Nat.le_trans hle (hleast other hmem hother)
      · next hlt =>
        cases h
        refine ⟨(operation, task) :: before, op, found, after, rfl, by simp [hlength], hdue,
          hfound, ?_⟩
        intro other hother hother?
        rcases List.mem_cons.mp hother with rfl | hmem
        · exact Nat.le_of_not_le hlt
        · exact hleast other hmem hother?

def members (operation : κ → Operation τ ε α) (tasks : List (κ × Task ε α)) :
    List (Member τ ε α) :=
  tasks.map fun task => (operation task.1, task.2)

def starting (keys : List κ) (instant : Nat) : List (κ × Task ε α) :=
  keys.map fun key => (key, startingAt instant)

theorem map_fst_starting (keys : List κ) (instant : Nat) :
    (starting keys instant : List (κ × Task ε α)).map Prod.fst = keys := by
  simp [starting, Function.comp_def]

theorem mem_starting {keys : List κ} {instant : Nat} {member : κ × Task ε α}
    (h : member ∈ starting keys instant) : member.2 = startingAt instant := by
  obtain ⟨key, -, rfl⟩ := List.mem_map.mp h
  rfl

theorem members_starting (operation : κ → Operation τ ε α) (keys : List κ) (instant : Nat) :
    (keys.map operation).map (fun operation => (operation, startingAt instant)) =
      members operation (starting keys instant) := by
  simp [starting, members]

section Keys

variable {operation : κ → Operation τ ε α}

theorem exists_of_nextDue_members {tasks : List (κ × Task ε α)} {place due : Nat}
    (h : nextDue (members operation tasks) = some (place, due)) :
    ∃ before key task after, tasks = before ++ (key, task) :: after ∧ before.length = place ∧
      task.due = due ∧ task.result? = none ∧
        ∀ other ∈ tasks, other.2.result? = none → due ≤ other.2.due := by
  obtain ⟨before, _, task, after, hsplit, hlength, hdue, hunended, hleast⟩ :=
    exists_of_nextDue_eq_some h
  obtain ⟨keyed, others, rfl, rfl, hothers⟩ := List.map_eq_append_iff.mp hsplit
  obtain ⟨⟨key, keyedTask⟩, keyedAfter, rfl, hmember, rfl⟩ := List.map_eq_cons_iff.mp hothers
  cases hmember
  refine ⟨keyed, key, keyedTask, keyedAfter, rfl, by simpa using hlength, hdue, hunended, ?_⟩
  intro other hother
  exact hleast _ (List.mem_map_of_mem hother)

/-- The step of the operation with a key. -/
theorem stepAt_members (policy : RetryPolicy) (retry : ε → Bool)
    (before : List (κ × Task ε α)) (key : κ) (task : Task ε α) (after : List (κ × Task ε α))
    (session : Session τ) :
    stepAt policy retry before.length (members operation (before ++ (key, task) :: after)) session =
      (members operation
        (before ++ (key, (task.step policy retry (operation key) session).1) :: after),
        (task.step policy retry (operation key) session).2) := by
  induction before with
  | nil => rfl
  | cons first rest ih =>
    simp only [members, List.cons_append, List.map_cons, List.length_cons, stepAt] at ih ⊢
    rw [ih]

structure FallsDue (operation : κ → Operation τ ε α) (before : List (κ × Task ε α)) (key : κ)
    (task : Task ε α) (after : List (κ × Task ε α)) : Prop where
  nextDue_eq : nextDue (members operation (before ++ (key, task) :: after)) =
    some (before.length, task.due)
  unended : task.result? = none
  least : ∀ other ∈ before ++ (key, task) :: after, other.2.result? = none →
    task.due ≤ other.2.due

/-- What the step of the operation that is next keeps holds when all have ended. -/
theorem runAll_members_induction (policy : RetryPolicy) (retry : ε → Bool)
    {P : List (κ × Task ε α) → Session τ → Prop}
    (hstep : ∀ before key task after session, FallsDue operation before key task after →
      P (before ++ (key, task) :: after) session →
      P (before ++ (key, (task.step policy retry (operation key) session).1) :: after)
        (task.step policy retry (operation key) session).2)
    (tasks : List (κ × Task ε α)) (session : Session τ) (h : P tasks session) :
    ∃ ended final, nextDue (members operation ended) = none ∧ P ended final ∧
      runAll policy retry (members operation tasks) session =
        (ended.map fun task => task.2.result?, final) := by
  obtain ⟨last, final, hnone, ⟨ended, rfl, hkept⟩, hrun⟩ := runAll_induction policy retry
    (P := fun all session => ∃ tasks, all = members operation tasks ∧ P tasks session)
    (by
      rintro place due _ session hdue ⟨tasks, rfl, hknown⟩
      obtain ⟨before, key, task, after, rfl, rfl, rfl, hunended, hleast⟩ :=
        exists_of_nextDue_members hdue
      rw [stepAt_members]
      exact ⟨_, rfl, hstep before key task after session ⟨hdue, hunended, hleast⟩ hknown⟩)
    (members operation tasks) session ⟨tasks, rfl, h⟩
  refine ⟨ended, final, hnone, hkept, ?_⟩
  rw [hrun, members, List.map_map]
  rfl

section Replaced

variable {before after : List (κ × Task ε α)} {key : κ}

theorem mem_of_ne_middle {task : Task ε α} {member : κ × Task ε α}
    (h : member ∈ before ++ (key, task) :: after) (hne : member.2 ≠ task) :
    member ∈ before ∨ member ∈ after := by
  rcases List.mem_append.mp h with hbefore | hrest
  · exact .inl hbefore
  · rcases List.mem_cons.mp hrest with rfl | hafter
    · exact absurd rfl hne
    · exact .inr hafter

theorem mem_replaced {member : κ × Task ε α} (h : member ∈ before ∨ member ∈ after)
    (next : Task ε α) : member ∈ before ++ (key, next) :: after := by
  rw [List.mem_append, List.mem_cons]
  exact h.imp_right .inr

/-- A bound on the steps still to come holds after a step of one operation if it holds
for its next one. -/
theorem le_due_replaced {task next : Task ε α} {bound : Nat}
    (h : ∀ member ∈ before ++ (key, task) :: after, member.2.result? = none →
      bound ≤ member.2.due)
    (hnext : next.result? = none → bound ≤ next.due) :
    ∀ member ∈ before ++ (key, next) :: after, member.2.result? = none →
      bound ≤ member.2.due := by
  intro member hmember hunended
  rcases List.mem_append.mp hmember with hbefore | hrest
  · exact h member (List.mem_append_left _ hbefore) hunended
  · rcases List.mem_cons.mp hrest with rfl | hafter
    · exact hnext hunended
    · exact h member (List.mem_append_right _ (List.mem_cons_of_mem _ hafter)) hunended

end Replaced

end Keys

theorem runAll_singleton (policy : RetryPolicy) (retry : ε → Bool) (operation : Operation τ ε α)
    (task : Task ε α) (session : Session τ) :
    runAll policy retry [(operation, task)] session =
      ([some (task.run policy retry operation session).1],
        (task.run policy retry operation session).2) := by
  induction task, session using run.induct policy retry operation with
  | case1 task session result hresult =>
    have hnone : nextDue [(operation, task)] = none := by simp [nextDue, hresult]
    rw [runAll_of_nextDue_eq_none policy retry hnone,
      run_of_result?_eq_some policy retry operation hresult]
    simp [hresult]
  | case2 task session hresult next hless ih =>
    have hsome : nextDue [(operation, task)] = some (0, task.due) := by simp [nextDue, hresult]
    rw [runAll_of_nextDue_eq_some policy retry hsome, run_step policy retry operation task session
      hresult]
    exact ih

end Task

theorem RetryPolicy.executeAll_singleton (policy : RetryPolicy) (retry : ε → Bool)
    (operation : Operation τ ε α) (session : Session τ) :
    policy.executeAll retry [operation] session =
      ([some (policy.execute retry operation session).1],
        (policy.execute retry operation session).2) :=
  Task.runAll_singleton policy retry operation _ session

end SearchStore
