import Mathlib.Logic.Function.Basic
import SearchStore.Proofs.Repository.Exchange

/-!
Engines to which requests get lost. What is to be lost stands beside the state of
the engine: for each call the attempts that will not arrive before one does, fewer
than the attempts that are made. Most calls are made one after the other and lose
attempts in that order. The calls that are made side by side, one for each index,
come in no fixed order, so what they lose is told by the index.

Such an engine differs from the one behind it in nothing but the attempts that are
lost, and neither does the engine itself, to which nothing is lost.
-/

namespace SearchStore

variable {σ τ : Type}

/-- A request that does not arrive: the reason that is given, and how long it
takes to find out. -/
structure Loss where
  reason : String
  duration : Nat := 0

/-- What is lost of one call: fewer attempts than are made. -/
abbrev FewLosses (attempts : Nat) := { losses : List Loss // losses.length < attempts }

def FewLosses.tail {attempts : Nat} (losses : FewLosses attempts) : FewLosses attempts :=
  ⟨losses.1.tail, by
    have hlength := losses.2
    rw [List.length_tail]
    omega⟩

structure Losses (attempts : Nat) where
  /-- Of the calls made one after the other, in their order. Nothing is lost of
  those for which the list is too short. -/
  inOrder : List (FewLosses attempts)
  emptying : String → FewLosses attempts
  deleting : String → FewLosses attempts

/-- Whether a call may be made side by side with others of its kind. -/
def Engine.Call.isSideBySide : Engine.Call → Bool
  | .deleteByQuery .. | .deleteIndex _ => true
  | _ => false

namespace Losses

variable {attempts : Nat}

def ofCall (losses : Losses attempts) : Engine.Call → List Loss
  | .deleteByQuery index _ => (losses.emptying index).1
  | .deleteIndex index => (losses.deleting index).1
  | _ => (losses.inOrder.head?.map Subtype.val).getD []

def afterLoss (losses : Losses attempts) : Engine.Call → Losses attempts
  | .deleteByQuery index _ =>
    { losses with emptying := Function.update losses.emptying index (losses.emptying index).tail }
  | .deleteIndex index =>
    { losses with deleting := Function.update losses.deleting index (losses.deleting index).tail }
  | _ =>
    { losses with
      inOrder := match losses.inOrder with
        | [] => []
        | first :: rest => first.tail :: rest }

def afterAnswer (losses : Losses attempts) : Engine.Call → Losses attempts
  | .deleteByQuery .. | .deleteIndex _ => losses
  | _ => { losses with inOrder := losses.inOrder.tail }

theorem length_ofCall_lt (hpos : 0 < attempts) (losses : Losses attempts) (call : Engine.Call) :
    (losses.ofCall call).length < attempts := by
  have hinOrder : ((losses.inOrder.head?.map Subtype.val).getD []).length < attempts := by
    cases losses.inOrder with
    | nil => exact hpos
    | cons first rest => exact first.2
  cases call
  case deleteByQuery index query => exact (losses.emptying index).2
  case deleteIndex index => exact (losses.deleting index).2
  all_goals exact hinOrder

theorem ofCall_afterLoss (losses : Losses attempts) (call : Engine.Call) :
    (losses.afterLoss call).ofCall call = (losses.ofCall call).tail := by
  have hinOrder : (((match losses.inOrder with
      | [] => []
      | first :: rest => first.tail :: rest).head?.map Subtype.val).getD []) =
      ((losses.inOrder.head?.map Subtype.val).getD []).tail := by
    cases losses.inOrder <;> rfl
  cases call
  case deleteByQuery index query => simp [afterLoss, ofCall, FewLosses.tail]
  case deleteIndex index => simp [afterLoss, ofCall, FewLosses.tail]
  all_goals exact hinOrder

theorem length_update_tail_le (lossesOf : String → FewLosses attempts) (index other : String) :
    (Function.update lossesOf index (lossesOf index).tail other).1.length ≤
      (lossesOf other).1.length := by
  by_cases h : other = index
  · subst h
    simp [FewLosses.tail]
  · exact Nat.le_of_eq (by rw [Function.update_of_ne h])

theorem length_ofCall_afterLoss_le (losses : Losses attempts) (call other : Engine.Call)
    (hcall : call.isSideBySide = true) :
    ((losses.afterLoss call).ofCall other).length ≤ (losses.ofCall other).length := by
  cases call
  case deleteByQuery index query =>
    cases other
    case deleteByQuery => exact length_update_tail_le _ _ _
    all_goals exact Nat.le_refl _
  case deleteIndex index =>
    cases other
    case deleteIndex => exact length_update_tail_le _ _ _
    all_goals exact Nat.le_refl _
  all_goals cases hcall

theorem afterAnswer_of_isSideBySide (losses : Losses attempts) {call : Engine.Call}
    (h : call.isSideBySide = true) : losses.afterAnswer call = losses := by
  cases call <;> first | rfl | cases h

end Losses

/-- The engine behind a connection that loses requests. A lost request leaves it
alone. -/
def Engine.losing (engine : Engine σ) (attempts : Nat) : Engine (σ × Losses attempts) where
  respond call state :=
    match state.2.ofCall call with
    | loss :: _ =>
      ({ outcome := .error (.transport loss.reason), duration := loss.duration },
        (state.1, state.2.afterLoss call))
    | [] =>
      let (answer, next) := engine.respond call state.1
      (answer, (next, state.2.afterAnswer call))

/-- An engine delivers calls to another one, of whose state it has a view, once
there are no attempts left to lose, of which there are fewer than are made. -/
structure Engine.DeliversTo (lossy : Engine τ) (engine : Engine σ) (view : τ → σ)
    (left : Engine.Call → τ → Nat) (attempts : Nat) : Prop where
  left_lt : ∀ call state, left call state < attempts
  not_cancels : ∀ call state, (lossy.respond call state).1.cancels = false
  lost : ∀ call state, 0 < left call state →
    (∃ reason, lossy.answer call state = .error (.transport reason)) ∧
      view (lossy.respond call state).2 = view state ∧
      left call (lossy.respond call state).2 < left call state
  delivered : ∀ call state, left call state = 0 →
    lossy.answer call state = engine.answer call (view state) ∧
      view (lossy.respond call state).2 = (engine.respond call (view state)).2
  left_le : ∀ call state other, call.isSideBySide = true →
    left other (lossy.respond call state).2 ≤ left other state

section Engines

variable {engine : Engine σ} (hcalm : ∀ call state, (engine.respond call state).1.cancels = false)
  {attempts : Nat} (hpos : 0 < attempts)
include hcalm hpos

/-- Nothing is lost on the way to the engine itself. -/
theorem Engine.deliversTo_self :
    engine.DeliversTo engine id (fun _ _ => 0) attempts where
  left_lt _ _ := hpos
  not_cancels := hcalm
  lost _ _ h := absurd h (Nat.lt_irrefl 0)
  delivered _ _ _ := ⟨rfl, rfl⟩
  left_le _ _ _ _ := Nat.le_refl 0

theorem Engine.losing_deliversTo :
    (engine.losing attempts).DeliversTo engine Prod.fst
      (fun call state => (state.2.ofCall call).length) attempts where
  left_lt call state := state.2.length_ofCall_lt hpos call
  not_cancels call state := by
    simp only [losing]
    split
    · rfl
    · exact hcalm call state.1
  lost call state h := by
    obtain ⟨loss, rest, hlosses⟩ := List.exists_cons_of_length_pos h
    have hless : ((state.2.afterLoss call).ofCall call).length < (state.2.ofCall call).length := by
      rw [Losses.ofCall_afterLoss, hlosses]
      exact Nat.lt_succ_self _
    rw [hlosses] at hless
    simp only [losing, answer, hlosses]
    exact ⟨⟨loss.reason, rfl⟩, trivial, hless⟩
  delivered call state h := by
    simp [losing, answer, List.eq_nil_of_length_eq_zero h]
  left_le call state other hcall := by
    simp only [losing]
    split
    · exact state.2.length_ofCall_afterLoss_le call other hcall
    · exact Nat.le_of_eq (by rw [Losses.afterAnswer_of_isSideBySide _ hcall])

end Engines

end SearchStore
