import Mathlib.Data.Nat.Init
import SearchStore.Proofs.FirstMention
import SearchStore.Proofs.Json.Numbers

/-!
Reading what has been written. Every character of a string is written so that it is read as
itself, and nothing that is written goes on with what stands after a value. So the compact
text of a document is read as the document, except that a double may be read as another one
or be too large, that one which is not finite is read as `null`, and that members which
repeat a key are read as one.
-/

namespace SearchStore.Json

variable {α : Type} {s rest : List Char}

def taken (item : Option (Taken s α)) : Option (α × List Char) :=
  item.map fun t => (t.value, t.rest)

@[simp] theorem taken_none : taken (none : Option (Taken s α)) = none := rfl

@[simp] theorem taken_some (t : Taken s α) : taken (some t) = some (t.value, t.rest) := rfl

theorem taken_widen {r : List Char} (item : Option (Taken r α)) (h : r.length ≤ s.length) :
    taken (item.map fun t => t.widen h) = taken item := by
  cases item <;> rfl

theorem taken_map_widen {β : Type} {r : List Char} (item : Option (Taken r α)) (f : α → β)
    (h : r.length ≤ s.length) : taken (item.map fun t => (t.map f).widen h) =
      (taken item).map fun (a, left) => (f a, left) := by
  cases item <;> rfl

/-! Strings -/

theorem codeUnit?_lowerHexDigit {n : Nat} (h : n < 0x20) :
    codeUnit? '0' '0' (Text.lowerHexDigit (n / 16)) (Text.lowerHexDigit (n % 16)) = some n := by
  have hall : ∀ n < 0x20, codeUnit? '0' '0' (Text.lowerHexDigit (n / 16))
      (Text.lowerHexDigit (n % 16)) = some n := by decide
  exact hall n h

/-- A letter after a backslash stands for one character. -/
theorem stringTail_letter {letter c : Char} (hletter : unescape? letter = some c)
    (hu : letter ≠ 'u') (s : List Char) : taken (stringTail ('\\' :: letter :: s)) =
      (taken (stringTail s)).map fun (cs, left) => (c :: cs, left) := by
  rw [stringTail]
  · simp only [hletter, taken_map_widen]
  · rintro a b c d after rfl
    exact absurd rfl hu

/-- A control character is read from its code. -/
theorem stringTail_code {c : Char} (hc : c.toNat < 0x20) (s : List Char) :
    taken (stringTail ('\\' :: 'u' :: '0' :: '0' :: Text.lowerHexDigit (c.toNat / 16) ::
      Text.lowerHexDigit (c.toNat % 16) :: s)) =
        (taken (stringTail s)).map fun (cs, left) => (c :: cs, left) := by
  rw [stringTail, codeUnit?_lowerHexDigit hc]
  dsimp only
  rw [if_neg (by omega), if_neg (by omega), taken_map_widen, Char.ofNat_toNat]

/-- Any other character stands for itself. -/
theorem stringTail_plain {c : Char} (hquote : c ≠ '"') (hbackslash : c ≠ '\\')
    (hc : ¬ c.toNat < 0x20) (s : List Char) : taken (stringTail (c :: s)) =
      (taken (stringTail s)).map fun (cs, left) => (c :: cs, left) := by
  rw [stringTail]
  · rw [if_neg (by simp [hbackslash]; omega), taken_map_widen]
  all_goals simp [hquote, hbackslash]

/-- A character of a string is read as itself. -/
theorem stringTail_escape (c : Char) (s : List Char) : taken (stringTail (escape c ++ s)) =
    (taken (stringTail s)).map fun (cs, left) => (c :: cs, left) := by
  fun_cases escape c
  · exact stringTail_letter rfl (by decide) s
  · exact stringTail_letter rfl (by decide) s
  · exact stringTail_letter rfl (by decide) s
  · exact stringTail_letter rfl (by decide) s
  · exact stringTail_letter rfl (by decide) s
  · exact stringTail_letter rfl (by decide) s
  · exact stringTail_letter rfl (by decide) s
  · next hc => exact stringTail_code hc s
  · next hquote hbackslash _ _ _ _ _ hc => exact stringTail_plain hquote hbackslash hc s

/-- A string is read up to its closing quote. -/
theorem stringTail_quote (cs rest : List Char) :
    taken (stringTail (cs.flatMap escape ++ '"' :: rest)) = some (cs, rest) := by
  induction cs with
  | nil =>
    rw [List.flatMap_nil, List.nil_append, stringTail]
    rfl
  | cons c cs ih =>
    rw [List.flatMap_cons, List.append_assoc, stringTail_escape, ih]
    rfl

/-! Items -/

variable {item : (s : List Char) → Option (Taken s α)} {close : Char}

/-- Items are taken off one after the other. -/
theorem taken_items (s : List Char) : taken (items item close s) =
    (taken (item s)).bind fun (first, left) =>
      match skipBlanks left with
      | [] => none
      | c :: after =>
        if c = ',' then (taken (items item close after)).map fun (others, left) =>
          (first :: others, left)
        else if c = close then some ([first], after)
        else none := by
  rw [items]
  cases item s with
  | none => rfl
  | some first =>
    simp only [taken_some, Option.bind_some]
    split
    · next hnil => rw [hnil, taken_none]
    · next c after hcons =>
      simp only [hcons]
      split
      · exact taken_map_widen ..
      · split <;> rfl

theorem taken_enclosed (s : List Char) : taken (enclosed item close s) =
    match skipBlanks s with
    | [] => none
    | c :: after => if c = close then some ([], after) else taken (items item close s) := by
  rw [enclosed]
  split
  · next hnil => rw [hnil, taken_none]
  · next c after hcons =>
    simp only [hcons]
    split <;> rfl

theorem taken_member (value : (s : List Char) → Option (Taken s Json)) (s : List Char) :
    taken (member value ('"' :: s)) = (taken (stringTail s)).bind fun (key, left) =>
      match skipBlanks left with
      | ':' :: after => (taken (value after)).map fun (v, left) => ((String.ofList key, v), left)
      | _ => none := by
  have hskip : skipBlanks ('"' :: s) = '"' :: s := rfl
  rw [member]
  split
  · next hcons =>
    rw [hskip, List.cons.injEq] at hcons
    obtain ⟨-, rfl⟩ := hcons
    cases stringTail s with
    | none => rfl
    | some key =>
      simp only [taken_some, Option.bind_some]
      split
      · next after hcons =>
        simp only [hcons]
        exact taken_map_widen ..
      · next hnone =>
        split
        · next after hcons => exact absurd hcons (hnone after)
        · rfl
  · next hnone => exact absurd hskip (hnone s)

theorem taken_value_scalar {depth : Nat} {c : Char} (hblank : isBlank c = false)
    (hbracket : c ≠ '[') (hbrace : c ≠ '{') (s : List Char) :
    taken (value depth (c :: s)) = taken (scalar (c :: s)) := by
  have hskip : skipBlanks (c :: s) = c :: s := by simp [skipBlanks, hblank]
  rw [value]
  split
  · next hnil => exact nomatch hskip.symm.trans hnil
  · next first after hcons =>
    rw [hskip, List.cons.injEq] at hcons
    obtain ⟨rfl, rfl⟩ := hcons
    split
    · exact absurd rfl hbracket
    · exact absurd rfl hbrace
    · exact absurd rfl hbracket
    · exact absurd rfl hbrace
    · exact (taken_widen _ _).trans (by rw [hskip])

theorem taken_value_array (depth : Nat) (s : List Char) : taken (value (depth + 1) ('[' :: s)) =
    (taken (enclosed (value depth) ']' s)).map fun (elements, left) => (.arr elements, left) := by
  have hskip : skipBlanks ('[' :: s) = '[' :: s := rfl
  rw [value]
  split
  · next hnil => exact nomatch hskip.symm.trans hnil
  · next first after hcons =>
    rw [hskip, List.cons.injEq] at hcons
    obtain ⟨rfl, rfl⟩ := hcons
    exact taken_map_widen ..

theorem taken_value_object (depth : Nat) (s : List Char) : taken (value (depth + 1) ('{' :: s)) =
    (taken (enclosed (member (value depth)) '}' s)).map fun (members, left) =>
      (ofMembers members, left) := by
  have hskip : skipBlanks ('{' :: s) = '{' :: s := rfl
  rw [value]
  split
  · next hnil => exact nomatch hskip.symm.trans hnil
  · next first after hcons =>
    rw [hskip, List.cons.injEq] at hcons
    obtain ⟨rfl, rfl⟩ := hcons
    exact taken_map_widen ..

/-! Documents -/

mutual

def reread : Json → Option Json
  | .null => some .null
  | .bool b => some (.bool b)
  | .int n => (integerText n).value
  | .double x => if x.isFinite then (rereadDouble x).map .double else some .null
  | .str s => some (.str s)
  | .arr elements => (rereadElements elements).map .arr
  | .obj members => (rereadMembers members).map ofMembers

def rereadElements : List Json → Option (List Json)
  | [] => some []
  | v :: rest => (reread v).bind fun w => (rereadElements rest).map (w :: ·)

def rereadMembers : List (String × Json) → Option (List (String × Json))
  | [] => some []
  | (key, v) :: rest => (reread v).bind fun w => (rereadMembers rest).map ((key, w) :: ·)

end

mutual

/-- How many brackets and braces are open at once in a document. -/
def depth : Json → Nat
  | .arr elements => depthOfElements elements + 1
  | .obj members => depthOfMembers members + 1
  | _ => 0

def depthOfElements : List Json → Nat
  | [] => 0
  | v :: rest => max (depth v) (depthOfElements rest)

def depthOfMembers : List (String × Json) → Nat
  | [] => 0
  | (_, v) :: rest => max (depth v) (depthOfMembers rest)

end

/-- A document is read up to its end, and as it is read by itself. -/
def RereadWithin (depth : Nat) (v : Json) : Prop :=
  ∀ rest, EndsValue rest → taken (value depth (print v ++ rest)) = (reread v).map (·, rest)

theorem taken_progress {found : Option (α × List Char)}
    (h : ∀ a left, found = some (a, left) → left.length < s.length) :
    taken (progress s found) = found := by
  cases found with
  | none => rfl
  | some found =>
    rw [progress, dif_pos (h found.1 found.2 rfl)]
    rfl

/-- What does not begin with a quote is a word or a number. -/
theorem scalar_cons {c : Char} (hc : c ≠ '"') (s : List Char) : scalar (c :: s) =
    progress (c :: s) (if c = 'n' then word "null".toList .null (c :: s)
      else if c = 't' then word "true".toList (.bool true) (c :: s)
      else if c = 'f' then word "false".toList (.bool false) (c :: s)
      else number (c :: s)) := by
  rw [scalar]
  exact hc

/-- A fixed word is read as what it stands for. -/
theorem taken_value_word (depth : Nat) (text rest : List Char) (v : Json) (hne : text ≠ [])
    (hvalue : taken (value depth (text ++ rest)) =
      taken (progress (text ++ rest) (word text v (text ++ rest)))) :
    taken (value depth (text ++ rest)) = some (v, rest) := by
  have hword : word text v (text ++ rest) = some (v, rest) := by
    rw [word, if_pos (List.isPrefixOf_iff_prefix.mpr (List.prefix_append text rest)),
      List.drop_left]
  rw [hvalue, hword, taken_progress]
  rintro _ _ ⟨⟩
  rw [List.length_append]
  have hpos : 0 < text.length := List.length_pos_iff.mpr hne
  omega

theorem rereadWithin_null (depth : Nat) : RereadWithin depth .null := by
  intro rest _
  refine taken_value_word depth "null".toList rest .null (by decide) ?_
  exact (taken_value_scalar rfl (by decide) (by decide) _).trans
    (congrArg taken (scalar_cons (by decide) _))

theorem rereadWithin_bool (depth : Nat) (b : Bool) : RereadWithin depth (.bool b) := by
  intro rest _
  cases b with
  | true =>
    refine taken_value_word depth "true".toList rest (.bool true) (by decide) ?_
    exact (taken_value_scalar rfl (by decide) (by decide) _).trans
      (congrArg taken (scalar_cons (by decide) _))
  | false =>
    refine taken_value_word depth "false".toList rest (.bool false) (by decide) ?_
    exact (taken_value_scalar rfl (by decide) (by decide) _).trans
      (congrArg taken (scalar_cons (by decide) _))

/-- A number is read to its end. -/
theorem taken_value_text (depth : Nat) (t : NumberText) {rest : List Char}
    (hrest : EndsValue rest) : taken (value depth (t.text ++ rest)) = t.value.map (·, rest) := by
  have hnumber := t.number_append hrest
  obtain ⟨c, more, htext, hc⟩ := t.exists_text_eq_cons
  have hne (other : Char) (hminus : '-' ≠ other) (hdigit : other.isDigit = false) : c ≠ other := by
    rcases hc with rfl | hc
    · exact hminus
    · exact ne_of_isDigit hc hdigit
  rw [htext, List.cons_append] at hnumber ⊢
  have hblank : isBlank c = false := by
    simp [isBlank, hne]
  rw [taken_value_scalar hblank (hne _ (by decide) rfl) (hne _ (by decide) rfl),
    scalar_cons (hne _ (by decide) rfl), if_neg (hne _ (by decide) rfl),
    if_neg (hne _ (by decide) rfl), if_neg (hne _ (by decide) rfl), hnumber, taken_progress]
  rintro v left hleft
  obtain ⟨_, -, ⟨⟩⟩ := Option.map_eq_some_iff.mp hleft
  rw [List.length_cons, List.length_append]
  omega

theorem rereadWithin_int (depth : Nat) (n : Int) : RereadWithin depth (.int n) := by
  intro rest hrest
  rw [print, ← text_integerText]
  exact taken_value_text depth (integerText n) hrest

theorem rereadWithin_double (depth : Nat) (x : Binary64) : RereadWithin depth (.double x) := by
  intro rest hrest
  rw [print, reread]
  by_cases hfinite : x.isFinite = true
  · obtain ⟨t, htext, hvalue⟩ := exists_value_double hfinite
    rw [if_pos hfinite, if_pos hfinite, ← htext, ← hvalue]
    exact taken_value_text depth t hrest
  · rw [if_neg hfinite, if_neg hfinite]
    exact rereadWithin_null depth rest hrest

theorem rereadWithin_str (depth : Nat) (s : String) : RereadWithin depth (.str s) := by
  intro rest _
  have hprint : print (.str s) ++ rest = '"' :: (s.toList.flatMap escape ++ '"' :: rest) := by
    simp [print, quote]
  rw [hprint, taken_value_scalar rfl (by decide) (by decide), scalar]
  have hquote := stringTail_quote s.toList rest
  generalize stringTail (s.toList.flatMap escape ++ '"' :: rest) = item at hquote ⊢
  exact (taken_map_widen item _ _).trans (by rw [hquote]; simp [reread])

/-! Items that have been written -/

section Printed

variable {β : Type} (text : β → List Char) (found : β → Option α)

/-- The last item, before what closes its array or object. -/
theorem taken_items_last {a : Option α} (hitem : taken (item s) = a.map (·, close :: rest))
    (hblank : isBlank close = false) (hcomma : close ≠ ',') :
    taken (items item close s) = a.map fun a => ([a], rest) := by
  have hskip : skipBlanks (close :: rest) = close :: rest := by simp [skipBlanks, hblank]
  rw [taken_items, hitem]
  cases a with
  | none => rfl
  | some a =>
    simp only [Option.map_some, Option.bind_some, hskip, if_neg hcomma, if_true]

/-- An item before a comma. -/
theorem taken_items_comma {a : Option α} {after : List Char}
    (hitem : taken (item s) = a.map (·, ',' :: after)) : taken (items item close s) =
      a.bind fun a => (taken (items item close after)).map fun (others, left) =>
        (a :: others, left) := by
  rw [taken_items, hitem]
  cases a <;> rfl

/-- Items with commas between them are read one after the other. -/
theorem taken_items_text (item : (s : List Char) → Option (Taken s α)) (close : Char)
    (hclose : close = ']' ∨ close = '}') (rest : List Char) (first : β) (others : List β)
    (h : ∀ b ∈ first :: others, ∀ rest, EndsValue rest →
      taken (item (text b ++ rest)) = (found b).map (·, rest)) :
    taken (items item close (text first ++ (others.flatMap (',' :: text ·) ++ close :: rest))) =
      ((first :: others).mapM found).map (·, rest) := by
  have hblank : isBlank close = false := by rcases hclose with rfl | rfl <;> rfl
  have hcomma : close ≠ ',' := by rcases hclose with rfl | rfl <;> decide
  induction others generalizing first with
  | nil =>
    have hlast := h first List.mem_cons_self (close :: rest) (endsValue_cons (.inr hclose))
    rw [List.flatMap_nil, List.nil_append, taken_items_last hlast hblank hcomma]
    cases hfirst : found first <;> simp [hfirst]
  | cons next others ih =>
    have hnext := ih next fun b hb => h b (List.mem_cons_of_mem first hb)
    rw [List.flatMap_cons, List.cons_append, List.cons_append, List.append_assoc,
      taken_items_comma (h first List.mem_cons_self _ (endsValue_cons (.inl rfl))), hnext,
      List.mapM_option_cons found first]
    cases found first with
    | none => rfl
    | some a => cases (next :: others).mapM found <;> rfl

end Printed

theorem printElements_eq (elements : List Json) :
    printElements elements = elements.flatMap (',' :: print ·) ++ [']'] := by
  induction elements with
  | nil => rfl
  | cons v elements ih => rw [printElements, ih, List.flatMap_cons, List.cons_append,
      List.cons_append, List.append_assoc]

theorem rereadElements_eq (elements : List Json) :
    rereadElements elements = elements.mapM reread := by
  induction elements with
  | nil => rfl
  | cons v elements ih => rw [rereadElements, ih, List.mapM_option_cons]

def printMember (member : String × Json) : List Char := quote member.1 ++ ':' :: print member.2

theorem printMembers_eq (members : List (String × Json)) :
    printMembers members = members.flatMap (',' :: printMember ·) ++ ['}'] := by
  induction members with
  | nil => rfl
  | cons member members ih =>
    rw [printMembers, ih, List.flatMap_cons, printMember]
    simp only [List.cons_append, List.append_assoc]

def keptMember (back : Json → Option Json) (member : String × Json) : Option (String × Json) :=
  (back member.2).map (member.1, ·)

theorem rereadMembers_eq (members : List (String × Json)) :
    rereadMembers members = members.mapM (keptMember reread) := by
  induction members with
  | nil => rfl
  | cons member members ih =>
    rw [rereadMembers, ih, List.mapM_option_cons, keptMember]
    cases reread member.2 <;> rfl

theorem taken_member_print {depth : Nat} {member : String × Json}
    (h : RereadWithin depth member.2) {rest : List Char} (hrest : EndsValue rest) :
    taken (Json.member (value depth) (printMember member ++ rest)) =
      (keptMember reread member).map (·, rest) := by
  have hprint : printMember member ++ rest =
      '"' :: (member.1.toList.flatMap escape ++ '"' :: ':' :: (print member.2 ++ rest)) := by
    simp [printMember, quote]
  rw [hprint, taken_member, stringTail_quote, Option.bind_some]
  have hskip : skipBlanks (':' :: (print member.2 ++ rest)) = ':' :: (print member.2 ++ rest) := rfl
  simp only [hskip, h rest hrest, String.ofList_toList]
  rw [keptMember]
  cases reread member.2 <;> rfl

/-- What is written for an item begins neither with a blank nor with what closes the items. -/
theorem exists_print_eq_cons (v : Json) :
    ∃ c more, print v = c :: more ∧ isBlank c = false ∧ c ≠ ']' := by
  have hnumber (t : NumberText) : ∃ c more, t.text = c :: more ∧ isBlank c = false ∧ c ≠ ']' := by
    obtain ⟨c, more, htext, hc⟩ := t.exists_text_eq_cons
    refine ⟨c, more, htext, ?_⟩
    rcases hc with rfl | hc
    · exact ⟨rfl, by decide⟩
    · have hne (other : Char) (hother : other.isDigit = false) := ne_of_isDigit hc hother
      exact ⟨by simp [isBlank, hne], hne _ rfl⟩
  cases v with
  | null => exact ⟨_, _, rfl, rfl, by decide⟩
  | bool b => cases b <;> exact ⟨_, _, rfl, rfl, by decide⟩
  | int n =>
    rw [print, ← text_integerText]
    exact hnumber (integerText n)
  | double x =>
    rw [print]
    by_cases hfinite : x.isFinite = true
    · obtain ⟨t, htext, -⟩ := exists_value_double hfinite
      rw [if_pos hfinite, ← htext]
      exact hnumber t
    · rw [if_neg hfinite]
      exact ⟨_, _, rfl, rfl, by decide⟩
  | str s => exact ⟨_, _, rfl, rfl, by decide⟩
  | arr elements => cases elements <;> exact ⟨_, _, rfl, rfl, by decide⟩
  | obj members => cases members <;> exact ⟨_, _, rfl, rfl, by decide⟩

theorem rereadWithin_arr {depth : Nat} {elements : List Json}
    (h : ∀ v ∈ elements, RereadWithin depth v) : RereadWithin (depth + 1) (.arr elements) := by
  intro rest _
  cases elements with
  | nil => exact (taken_value_array depth _).trans (by rw [taken_enclosed]; rfl)
  | cons v elements =>
    have hprint : print (.arr (v :: elements)) ++ rest =
        '[' :: (print v ++ (elements.flatMap (',' :: print ·) ++ ']' :: rest)) := by
      simp [print, printElements_eq]
    have hitems := taken_items_text print reread (value depth) ']' (.inl rfl) rest v elements h
    obtain ⟨c, more, hfirst, hblank, hclose⟩ := exists_print_eq_cons v
    have hskip (s : List Char) : skipBlanks (print v ++ s) = c :: (more ++ s) := by
      simp [skipBlanks, hfirst, hblank]
    rw [hprint, taken_value_array, taken_enclosed, hskip, hitems, reread, rereadElements_eq]
    dsimp only
    rw [if_neg hclose]
    cases (v :: elements).mapM reread <;> rfl

theorem rereadWithin_obj {depth : Nat} {members : List (String × Json)}
    (h : ∀ member ∈ members, RereadWithin depth member.2) :
    RereadWithin (depth + 1) (.obj members) := by
  intro rest _
  cases members with
  | nil => exact (taken_value_object depth _).trans (by rw [taken_enclosed]; rfl)
  | cons first members =>
    have hprint : print (.obj (first :: members)) ++ rest =
        '{' :: (printMember first ++ (members.flatMap (',' :: printMember ·) ++ '}' :: rest)) := by
      simp [print, printMembers_eq, printMember]
    have hitems := taken_items_text printMember (keptMember reread) (member (value depth)) '}'
      (.inr rfl) rest first members fun member hmember _ => taken_member_print (h member hmember)
    have hskip (s : List Char) : skipBlanks (printMember first ++ s) = printMember first ++ s := rfl
    rw [hprint, taken_value_object, taken_enclosed, hskip, hitems, reread, rereadMembers_eq]
    cases (first :: members).mapM (keptMember reread) <;> rfl

theorem depth_le_depthOfElements {v : Json} {elements : List Json} (h : v ∈ elements) :
    depth v ≤ depthOfElements elements := by
  induction elements with
  | nil => exact absurd h List.not_mem_nil
  | cons w elements ih =>
    rw [depthOfElements]
    rcases List.mem_cons.mp h with rfl | h
    · exact Nat.le_max_left _ _
    · exact Nat.le_trans (ih h) (Nat.le_max_right _ _)

theorem depth_le_depthOfMembers {member : String × Json} {members : List (String × Json)}
    (h : member ∈ members) : depth member.2 ≤ depthOfMembers members := by
  induction members with
  | nil => exact absurd h List.not_mem_nil
  | cons other members ih =>
    rw [depthOfMembers]
    rcases List.mem_cons.mp h with rfl | h
    · exact Nat.le_max_left _ _
    · exact Nat.le_trans (ih h) (Nat.le_max_right _ _)

theorem sizeOf_lt_of_mem_members {member : String × Json} {members : List (String × Json)}
    (h : member ∈ members) : sizeOf member.2 < sizeOf (obj members) := by
  have hmembers := List.sizeOf_lt_of_mem h
  obtain ⟨key, v⟩ := member
  simp only [Prod.mk.sizeOf_spec, obj.sizeOf_spec] at hmembers ⊢
  omega

/-- A document is read to its end if no more brackets and braces are open than may be. -/
theorem rereadWithin (v : Json) {limit : Nat} (h : depth v ≤ limit) : RereadWithin limit v := by
  match v with
  | .null => exact rereadWithin_null limit
  | .bool b => exact rereadWithin_bool limit b
  | .int n => exact rereadWithin_int limit n
  | .double x => exact rereadWithin_double limit x
  | .str s => exact rereadWithin_str limit s
  | .arr elements =>
    obtain ⟨limit, rfl⟩ : ∃ below, limit = below + 1 := ⟨limit - 1, by rw [depth] at h; omega⟩
    rw [depth] at h
    refine rereadWithin_arr fun w hw => ?_
    have hdepth := depth_le_depthOfElements hw
    exact rereadWithin w (by omega)
  | .obj members =>
    obtain ⟨limit, rfl⟩ : ∃ below, limit = below + 1 := ⟨limit - 1, by rw [depth] at h; omega⟩
    rw [depth] at h
    refine rereadWithin_obj fun member hmember => ?_
    have hdepth := depth_le_depthOfMembers hmember
    have hsize := sizeOf_lt_of_mem_members hmember
    exact rereadWithin member.2 (by omega)

theorem read?_eq (text : String) : read? text =
    (taken (value depthLimit text.toList)).bind fun (v, left) =>
      if (skipBlanks left).isEmpty then some v else none := by
  rw [read?]
  cases value depthLimit text.toList <;> rfl

/-- The compact text of a document is read to its end. -/
theorem read?_compact (v : Json) (h : depth v ≤ depthLimit) : read? v.compact = reread v := by
  have hread := rereadWithin v h [] endsValue_nil
  rw [List.append_nil] at hread
  rw [read?_eq, compact, String.toList_ofList, hread]
  cases reread v <;> rfl

/-- The text of a double is read as a double, if at all. -/
theorem read?_compact_double {x : Binary64} (h : x.isFinite = true) :
    read? (Json.double x).compact = (rereadDouble x).map .double := by
  rw [read?_compact _ (Nat.zero_le _), reread, if_pos h]

/-- A way to keep documents from which all comes back as it was, but doubles come back as
others, or not at all. -/
structure Keeps (back : Json → Option Json) (again : Binary64 → Option Binary64) : Prop where
  null : back .null = some .null
  bool : ∀ b, back (.bool b) = some (.bool b)
  int : ∀ n, IsSigned64 n → back (.int n) = some (.int n)
  double : ∀ x, x.isFinite = true → back (.double x) = (again x).map .double
  str : ∀ s, back (.str s) = some (.str s)
  arr : ∀ elements, back (.arr elements) = (elements.mapM back).map .arr
  obj : ∀ members, (members.map Prod.fst).Nodup →
    back (.obj members) = (members.mapM (keptMember back)).map .obj

/-- A document may be kept as it is. -/
theorem keeps_some : Keeps some some where
  null := rfl
  bool _ := rfl
  int _ _ := rfl
  double _ _ := rfl
  str _ := rfl
  arr elements := by
    have hsame : elements.mapM some = some (elements.map id) := List.mapM_pure
    rw [hsame, List.map_id, Option.map_some]
  obj members _ := by
    have hsame : members.mapM (keptMember some) = some (members.map id) := List.mapM_pure
    rw [hsame, List.map_id, Option.map_some]

theorem keys_of_mapM_keptMember {back : Json → Option Json}
    {members others : List (String × Json)} (h : members.mapM (keptMember back) = some others) :
    others.map Prod.fst = members.map Prod.fst := by
  induction members generalizing others with
  | nil =>
    obtain rfl := Option.some.inj h
    rfl
  | cons member members ih =>
    rw [List.mapM_option_cons] at h
    obtain ⟨first, hfirst, h⟩ := Option.bind_eq_some_iff.mp h
    obtain ⟨_, -, rfl⟩ := Option.map_eq_some_iff.mp hfirst
    obtain ⟨rest, hrest, rfl⟩ := Option.map_eq_some_iff.mp h
    rw [List.map_cons, List.map_cons, ih hrest]

/-- A document may be kept as its compact text. -/
theorem keeps_reread : Keeps reread rereadDouble where
  null := rfl
  bool _ := rfl
  int n hn := value_integerText (by omega) (by omega)
  double x hx := by rw [reread, if_pos hx]
  str _ := rfl
  arr elements := by rw [reread, rereadElements_eq]
  obj members hnodup := by
    rw [reread, rereadMembers_eq]
    cases hmembers : members.mapM (keptMember reread) with
    | none => rfl
    | some others =>
      have hkeys : (others.map Prod.fst).Nodup := keys_of_mapM_keptMember hmembers ▸ hnodup
      rw [Option.map_some, Option.map_some, ofMembers, distinctMembers_of_nodup hkeys]

end SearchStore.Json
