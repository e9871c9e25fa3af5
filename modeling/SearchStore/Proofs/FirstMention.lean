import SearchStore.Json.Value
import SearchStore.Proofs.Containers

/-!
The members of an object in the order of their first mention: each key keeps its
first place and its last value.
-/

namespace SearchStore

namespace Json

variable {α : Type}

/-- A member with a new key goes to the end. -/
theorem setMember_of_not_mem {key : String} {members : List (String × α)}
    (h : key ∉ members.map Prod.fst) (value : α) :
    setMember key value members = members ++ [(key, value)] := by
  induction members with
  | nil => rfl
  | cons member rest ih =>
    obtain ⟨k, v⟩ := member
    simp only [List.map_cons, List.mem_cons, not_or] at h
    rw [setMember, if_neg (Ne.symm h.1), ih h.2, List.cons_append]

theorem keys_setMember (key : String) (value : α) (members : List (String × α)) :
    (setMember key value members).map Prod.fst =
      if key ∈ members.map Prod.fst then members.map Prod.fst
      else members.map Prod.fst ++ [key] := by
  induction members with
  | nil => rfl
  | cons member rest ih =>
    obtain ⟨k, v⟩ := member
    by_cases h : k = key
    · subst h
      simp [setMember]
    · rw [setMember, if_neg h, List.map_cons, ih]
      by_cases hrest : key ∈ rest.map Prod.fst <;> simp_all [eq_comm]

theorem lookup_setMember (key : String) (value : α) (members : List (String × α))
    (other : String) :
    (setMember key value members).lookup other =
      if other = key then some value else members.lookup other := by
  induction members with
  | nil =>
    rw [setMember, List.lookup_cons]
    by_cases h : other = key <;> simp [h, beq_false_of_ne]
  | cons member rest ih =>
    obtain ⟨k, v⟩ := member
    by_cases hk : k = key
    · subst hk
      rw [setMember, if_pos rfl, List.lookup_cons, List.lookup_cons]
      by_cases h : other = k <;> simp [h, beq_false_of_ne]
    · rw [setMember, if_neg hk, List.lookup_cons, List.lookup_cons, ih]
      by_cases h : other = k
      · subst h
        simp [hk]
      · simp [h, beq_false_of_ne]

/-- To set a member again changes nothing. -/
theorem setMember_setMember (key : String) (value : α) (members : List (String × α)) :
    setMember key value (setMember key value members) = setMember key value members := by
  induction members with
  | nil => simp [setMember]
  | cons member rest ih =>
    obtain ⟨k, v⟩ := member
    by_cases h : k = key
    · subst h
      simp [setMember]
    · rw [setMember, if_neg h, setMember, if_neg h, ih]

theorem distinctMembers_concat (members : List (String × α)) (member : String × α) :
    distinctMembers (members ++ [member]) =
      setMember member.1 member.2 (distinctMembers members) := by
  rw [distinctMembers, List.foldl_append]
  rfl

/-- The keys stand in the order of their first mention. -/
theorem keys_distinctMembers (members : List (String × α)) :
    (distinctMembers members).map Prod.fst = (members.map Prod.fst).eraseDups := by
  induction members using List.reverseRecOn with
  | nil => rfl
  | append_singleton members member ih =>
    rw [distinctMembers_concat, keys_setMember, ih, List.map_append, List.map_singleton,
      List.eraseDups_concat]
    simp only [List.mem_eraseDups]

/-- Under a key stands the last of its values. -/
theorem lookup_distinctMembers (members : List (String × α)) (key : String) :
    (distinctMembers members).lookup key =
      ((members.filter fun member => member.1 = key).getLast?).map Prod.snd := by
  induction members using List.reverseRecOn with
  | nil => rfl
  | append_singleton members member ih =>
    rw [distinctMembers_concat, lookup_setMember, List.filter_append]
    by_cases h : key = member.1
    · subst h
      simp
    · simp [h, Ne.symm h, ih]

theorem mem_of_mem_setMember {key : String} {value : α} {members : List (String × α)}
    {member : String × α} (h : member ∈ setMember key value members) :
    member = (key, value) ∨ member ∈ members := by
  induction members with
  | nil => exact .inl (List.mem_singleton.mp h)
  | cons first rest ih =>
    rw [setMember] at h
    split at h
    · rcases List.mem_cons.mp h with hnew | hrest
      · exact .inl hnew
      · exact .inr (List.mem_cons_of_mem _ hrest)
    · rcases List.mem_cons.mp h with hfirst | hset
      · exact .inr (hfirst ▸ List.mem_cons_self)
      · exact (ih hset).imp_right (List.mem_cons_of_mem _)

/-- No member is made up. -/
theorem mem_of_mem_distinctMembers {members : List (String × α)} {member : String × α}
    (h : member ∈ distinctMembers members) : member ∈ members := by
  induction members using List.reverseRecOn with
  | nil => exact h
  | append_singleton members last ih =>
    rw [distinctMembers_concat] at h
    rw [List.mem_append, List.mem_singleton]
    exact (mem_of_mem_setMember h).symm.imp_left ih

/-- Members without repeated keys are kept as they are. -/
theorem distinctMembers_of_nodup {members : List (String × α)}
    (h : (members.map Prod.fst).Nodup) : distinctMembers members = members := by
  induction members using List.reverseRecOn with
  | nil => rfl
  | append_singleton members member ih =>
    rw [List.map_append, List.map_singleton, ← List.concat_eq_append, List.nodup_concat] at h
    rw [distinctMembers_concat, ih h.2]
    exact setMember_of_not_mem h.1 _

end Json

end SearchStore
