import Mathlib.Data.List.Forall2
import Mathlib.Data.List.Induction
import Mathlib.Data.List.Nodup

/-!
Lists, options and results, whatever they hold. A list is sent item by item through a
function that may fail, searched for the first item that passes a test, or freed of its
repetitions. Options and results are compared by what a function makes of them.
-/

namespace List

section Images

variable {α β γ : Type}

theorem map_eq_map_iff_forall₂ {f : α → γ} {g : β → γ} {as : List α} {bs : List β} :
    as.map f = bs.map g ↔ Forall₂ (fun a b => f a = g b) as bs := by
  rw [← forall₂_eq_eq_eq, forall₂_map_left_iff, forall₂_map_right_iff]

theorem mapM_option_cons (f : α → Option β) (a : α) (as : List α) :
    (a :: as).mapM f = (f a).bind fun b => (as.mapM f).map (b :: ·) := by
  rw [mapM_cons]
  cases f a with
  | none => rfl
  | some b => cases as.mapM f <;> rfl

/-- To send a list through two functions one after the other is to send each item through
both: the first item that fails decides either way. -/
theorem mapM_bind_mapM (f : α → Option β) (g : β → Option γ) (as : List α) :
    (as.mapM f).bind (mapM g) = as.mapM fun a => (f a).bind g := by
  induction as with
  | nil => rfl
  | cons a as ih =>
    rw [mapM_option_cons, mapM_option_cons, ← ih]
    cases f a with
    | none => rfl
    | some b =>
      rw [Option.bind_some, Option.bind_some]
      cases as.mapM f with
      | none => cases g b <;> rfl
      | some bs => exact mapM_option_cons g b bs

theorem mapM_congr_left {f g : α → Option β} {as : List α} (h : ∀ a ∈ as, f a = g a) :
    as.mapM f = as.mapM g := by
  induction as with
  | nil => rfl
  | cons a as ih =>
    rw [forall_mem_cons] at h
    rw [mapM_option_cons, mapM_option_cons, h.1, ih h.2]

theorem mapM_eq_some_self_iff {f : α → Option α} {as : List α} :
    as.mapM f = some as ↔ ∀ a ∈ as, f a = some a := by
  induction as with
  | nil => simp
  | cons a as ih =>
    rw [mapM_option_cons, forall_mem_cons, ← ih, Option.bind_eq_some_iff]
    simp only [Option.map_eq_some_iff, cons.injEq]
    constructor
    · rintro ⟨b, hb, bs, hbs, rfl, rfl⟩
      exact ⟨hb, hbs⟩
    · rintro ⟨ha, has⟩
      exact ⟨a, ha, as, has, rfl, rfl⟩

theorem isSome_mapM_iff {f : α → Option β} {as : List α} :
    (as.mapM f).isSome = true ↔ ∀ a ∈ as, (f a).isSome = true := by
  induction as with
  | nil => simp
  | cons a as ih =>
    rw [mapM_option_cons, forall_mem_cons, ← ih]
    cases f a <;> simp

end Images

/-- A new item that passes a test is the first to pass it if none before it does. -/
theorem find?_append_cons_eq_some_iff {α : Type} {p : α → Bool} {before after : List α}
    {item : α} (hitem : p item = true) (hnew : item ∉ before) :
    (before ++ item :: after).find? p = some item ↔ ∀ earlier ∈ before, p earlier = false := by
  rw [find?_append, find?_cons_of_pos hitem]
  cases hfound : before.find? p with
  | none => simpa using hfound
  | some found =>
    have hmem : found ∈ before := mem_of_find?_eq_some hfound
    have hpasses : p found = true := find?_some hfound
    rw [Option.some_or]
    constructor
    · rintro ⟨⟩
      exact absurd hmem hnew
    · intro hnone
      exact nomatch hpasses.symm.trans (hnone found hmem)

section Repetitions

variable {α : Type} [DecidableEq α]

/-- A new item comes last, a repeated one is passed over. -/
theorem eraseDups_concat (items : List α) (item : α) :
    (items ++ [item]).eraseDups =
      if item ∈ items then items.eraseDups else items.eraseDups ++ [item] := by
  rw [eraseDups_append]
  by_cases h : item ∈ items <;> simp [removeAll, h, eraseDups_cons]

theorem nodup_eraseDups (items : List α) : items.eraseDups.Nodup := by
  induction items using reverseRecOn with
  | nil => simp
  | append_singleton items item ih =>
    rw [eraseDups_concat]
    split
    · exact ih
    · next hnew =>
      rw [← concat_eq_append, nodup_concat]
      exact ⟨fun hmem => hnew (mem_eraseDups.mp hmem), ih⟩

theorem length_eraseDups_le (items : List α) : items.eraseDups.length ≤ items.length := by
  induction items using reverseRecOn with
  | nil => simp
  | append_singleton items item ih =>
    rw [eraseDups_concat]
    split <;> simp only [length_append, length_singleton] <;> omega

/-- Nothing is left out exactly when nothing is repeated. -/
theorem length_eraseDups_eq_iff (items : List α) :
    items.eraseDups.length = items.length ↔ items.Nodup := by
  induction items using reverseRecOn with
  | nil => simp
  | append_singleton items item ih =>
    have hle := length_eraseDups_le items
    have hnodup : (items ++ [item]).Nodup ↔ item ∉ items ∧ items.Nodup := by
      rw [← concat_eq_append, nodup_concat]
    rw [eraseDups_concat, length_append, length_singleton, hnodup, ← ih]
    by_cases h : item ∈ items
    · simp only [h, if_true, not_true_eq_false, false_and, iff_false]
      omega
    · simp [h]

end Repetitions

end List

/-- Of two options that look the same both are nothing, or both something that looks the
same. -/
theorem Option.eq_none_or_exists_of_map_eq {α β : Type} {f : α → β} {first second : Option α}
    (h : first.map f = second.map f) : first = none ∧ second = none ∨
      ∃ a b, first = some a ∧ second = some b ∧ f a = f b := by
  cases first with
  | none => exact .inl ⟨rfl, Option.map_eq_none_iff.mp h.symm⟩
  | some a =>
    obtain ⟨b, hb, hab⟩ := Option.map_eq_some_iff.mp h.symm
    exact .inr ⟨a, b, rfl, hb, hab.symm⟩

namespace Except

variable {ε ε' α β : Type}

theorem map_eq_ok_iff {result : Except ε α} {f : α → β} {b : β} :
    result.map f = .ok b ↔ ∃ a, result = .ok a ∧ f a = b := by
  cases result <;> simp [Except.map]

theorem map_eq_error_iff {result : Except ε α} {f : α → β} {error : ε} :
    result.map f = .error error ↔ result = .error error := by
  cases result <;> simp [Except.map]

theorem mapError_eq_ok_iff {result : Except ε α} {f : ε → ε'} {a : α} :
    result.mapError f = .ok a ↔ result = .ok a := by
  cases result <;> simp [Except.mapError]

theorem mapError_eq_error_iff {result : Except ε α} {f : ε → ε'} {error : ε'} :
    result.mapError f = .error error ↔ ∃ reason, result = .error reason ∧ f reason = error := by
  cases result <;> simp [Except.mapError]

theorem eq_error_iff_of_map_eq {f : α → β} {first second : Except ε α} {error : ε}
    (h : first.map f = second.map f) : first = .error error ↔ second = .error error := by
  rw [← map_eq_error_iff (f := f), h, map_eq_error_iff]

end Except
