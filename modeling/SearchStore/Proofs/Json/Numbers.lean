import SearchStore.Json.Printer
import SearchStore.Json.Reader

/-!
The texts of numbers and what is read off them. A number is read to its end wherever it
stands in a document, since neither a comma nor a closing bracket or brace goes on with it.
Integers of 64 bits are read as themselves. Every finite double is written with a fraction
or an exponent, so it is read as a double, if at all.
-/

namespace SearchStore.Json

/-- What stands after a value in a document: nothing, a comma, or what closes its array or
its object. -/
def EndsValue (rest : List Char) : Prop := ∀ c ∈ rest.head?, c = ',' ∨ c = ']' ∨ c = '}'

theorem endsValue_nil : EndsValue [] := by simp [EndsValue]

theorem endsValue_cons {c : Char} {rest : List Char} (h : c = ',' ∨ c = ']' ∨ c = '}') :
    EndsValue (c :: rest) := by simpa [EndsValue] using h

abbrev Digits := { digits : List Char // digits ≠ [] ∧ ∀ c ∈ digits, c.isDigit = true }

/-- A number as it is written: its sign, its whole part, which begins with a zero only if it
is one, and after it a fraction, an exponent, both or neither. -/
structure NumberText where
  negative : Bool
  whole : Digits
  fraction : Option Digits
  exponent : Option Int
  leading : whole.val.head? = some '0' → whole.val.length = 1

namespace NumberText

def fractionText : Option Digits → List Char
  | none => []
  | some digits => '.' :: digits.val

def exponentText : Option Int → List Char
  | none => []
  | some exponent => 'e' :: (toString exponent).toList

def unsigned (t : NumberText) : List Char :=
  t.whole.val ++ fractionText t.fraction ++ exponentText t.exponent

def text (t : NumberText) : List Char := (if t.negative then ['-'] else []) ++ t.unsigned

/-- What the number is read as: an integer if it has neither fraction nor exponent. -/
def value (t : NumberText) : Option Json :=
  match t.fraction, t.exponent with
  | none, none => integerValue t.negative t.whole.val
  | fraction, exponent =>
    decimalValue t.negative t.whole.val ((fraction.map Subtype.val).getD []) (exponent.getD 0)

end NumberText

/-- The digits at the front of a text are taken off if no other digit follows them. -/
theorem takeDigits_append {digits rest : List Char} (hdigits : ∀ c ∈ digits, c.isDigit = true)
    (hrest : ∀ c ∈ rest.head?, c.isDigit = false) :
    takeDigits (digits ++ rest) = (digits, rest) := by
  have hnone : rest.takeWhile Char.isDigit = [] ∧ rest.dropWhile Char.isDigit = rest := by
    cases rest with
    | nil => exact ⟨rfl, rfl⟩
    | cons c rest => simp [hrest c rfl]
  rw [takeDigits, List.takeWhile_append_of_pos hdigits, List.dropWhile_append_of_pos hdigits,
    hnone.1, hnone.2, List.append_nil]

theorem EndsValue.not_digit {rest : List Char} (h : EndsValue rest) :
    ∀ c ∈ rest.head?, c.isDigit = false := by
  intro c hc
  rcases h c hc with rfl | rfl | rfl <;> rfl

theorem isDigit_of_mem_toDigits {n : Nat} : ∀ c ∈ Nat.toDigits 10 n, c.isDigit = true :=
  fun _ => Nat.isDigit_of_mem_toDigits (by decide) (by decide)

/-- The value of the digits of a number. -/
theorem foldl_toDigits (n : Nat) :
    (Nat.toDigits 10 n).foldl (fun n c => n * 10 + digitValue c) 0 = n := by
  have hvalue : (fun n c => n * 10 + digitValue c) =
      fun (sofar : Nat) (c : Char) => 10 * sofar + (c.toNat - '0'.toNat) := by
    funext n c
    rw [Nat.mul_comm, digitValue]
  rw [hvalue, ← Nat.ofDigitChars_eq_foldl, Nat.ofDigitChars_ten_toDigits]

/-- The digits of an integer after its sign. -/
theorem toList_toString_int (n : Int) : (toString n).toList =
    (if n < 0 then ['-'] else []) ++ Nat.toDigits 10 n.natAbs := by
  rw [Int.toString_eq_repr, Int.repr_eq_if]
  by_cases h : 0 ≤ n
  · rw [if_pos h, if_neg (by omega), Nat.toList_repr, List.nil_append]
    congr 1
    omega
  · rw [if_neg h, if_pos (by omega), String.toList_append, Nat.toList_repr]
    congr 2
    omega

theorem ne_of_isDigit {c other : Char} (hc : c.isDigit = true) (hother : other.isDigit = false) :
    c ≠ other := by
  rintro rfl
  exact nomatch hc.symm.trans hother

/-- An exponent is read to its end. -/
theorem exponentTail_append (n : Int) {rest : List Char} (hrest : EndsValue rest) :
    exponentTail ((toString n).toList ++ rest) = some (n, rest) := by
  have hdigits := takeDigits_append (isDigit_of_mem_toDigits (n := n.natAbs)) hrest.not_digit
  have hne : (Nat.toDigits 10 n.natAbs).isEmpty = false := by simp
  rw [toList_toString_int, List.append_assoc]
  by_cases hneg : n < 0
  · rw [if_pos hneg, List.singleton_append, exponentTail]
    simp only [hdigits, hne, foldl_toDigits, Bool.false_eq_true, if_false, if_true]
    congr 2
    omega
  · have hsign (sign : Char) (hsign : sign.isDigit = false) (after : List Char) :
        Nat.toDigits 10 n.natAbs ++ rest ≠ sign :: after := by
      obtain ⟨c, digits, hc⟩ := List.exists_cons_of_ne_nil (Nat.toDigits_ne_nil (n := n.natAbs))
      have hdigit := isDigit_of_mem_toDigits (n := n.natAbs) c (hc ▸ List.mem_cons_self)
      rw [hc, List.cons_append]
      exact fun hcons => ne_of_isDigit hdigit hsign (List.cons.inj hcons).1
    rw [if_neg hneg, List.nil_append, exponentTail]
    · simp only [hdigits, hne, foldl_toDigits, Bool.false_eq_true, if_false]
      congr 2
      omega
    · exact hsign '-' rfl
    · exact hsign '+' rfl

def fractionPart : List Char → Option (Option (List Char) × List Char)
  | '.' :: rest =>
    let (digits, rest) := takeDigits rest
    if digits.isEmpty then none else some (some digits, rest)
  | rest => some (none, rest)

def exponentPart : List Char → Option (Option Int × List Char)
  | 'e' :: rest | 'E' :: rest =>
    (exponentTail rest).map fun (exponent, rest) => (some exponent, rest)
  | rest => some (none, rest)

theorem exponentPart_bind (s whole : List Char) (fraction : Option (List Char)) :
    (match s with
      | 'e' :: rest | 'E' :: rest => do
        let (exponent, rest) ← exponentTail rest
        return (whole, fraction, some exponent, rest)
      | rest => return (whole, fraction, none, rest)) =
    (exponentPart s).map fun (exponent, rest) => (whole, fraction, exponent, rest) := by
  unfold exponentPart
  split
  · next rest => cases exponentTail rest <;> rfl
  · next rest => cases exponentTail rest <;> rfl
  · rfl

/-- The parts of a number, one after the other. -/
theorem numberParts_eq (s : List Char) : numberParts s =
    (let (whole, rest) := takeDigits s
    if whole.isEmpty || (whole.head? = some '0' && 1 < whole.length) then none
    else (fractionPart rest).bind fun (fraction, rest) =>
      (exponentPart rest).map fun (exponent, rest) => (whole, fraction, exponent, rest)) := by
  unfold numberParts
  obtain ⟨whole, rest⟩ := takeDigits s
  simp only [← exponentPart_bind]
  split
  · rfl
  · split
    · next digits =>
      rw [fractionPart]
      cases hempty : (takeDigits digits).1.isEmpty with
      | true => simp [hempty]
      | false =>
        simp only [hempty]
        rfl
    · next hpoint =>
      rw [fractionPart]
      · rfl
      · exact hpoint

namespace NumberText

variable {rest : List Char}

theorem fractionPart_append (fraction : Option Digits)
    (hdigit : ∀ c ∈ rest.head?, c.isDigit = false) (hpoint : ∀ c ∈ rest.head?, c ≠ '.') :
    fractionPart (fractionText fraction ++ rest) = some (fraction.map Subtype.val, rest) := by
  cases fraction with
  | none =>
    rw [fractionText, List.nil_append, fractionPart]
    · rfl
    · rintro after rfl
      exact hpoint '.' rfl rfl
  | some digits =>
    obtain ⟨digits, hne, hdigits⟩ := digits
    have hfilled : digits.isEmpty = false := by simpa using hne
    rw [fractionText, List.cons_append, fractionPart]
    simp only [takeDigits_append hdigits hdigit, hfilled]
    rfl

theorem exponentPart_append (exponent : Option Int) (hrest : EndsValue rest) :
    exponentPart (exponentText exponent ++ rest) = some (exponent, rest) := by
  cases exponent with
  | none =>
    have hne (c : Char) (hc : ¬(c = ',' ∨ c = ']' ∨ c = '}')) (after : List Char) :
        rest ≠ c :: after := by
      rintro rfl
      exact hc (hrest c rfl)
    rw [exponentText, List.nil_append, exponentPart]
    · exact hne 'e' (by decide)
    · exact hne 'E' (by decide)
  | some exponent =>
    rw [exponentText, List.cons_append, exponentPart, exponentTail_append exponent hrest]
    rfl

theorem head?_exponentText (exponent : Option Int) (hrest : EndsValue rest) :
    ∀ c ∈ (exponentText exponent ++ rest).head?, c.isDigit = false ∧ c ≠ '.' := by
  cases exponent with
  | none =>
    intro c hc
    rcases hrest c hc with rfl | rfl | rfl <;> decide
  | some exponent => simp [exponentText]

theorem head?_fractionText (fraction : Option Digits)
    (hrest : ∀ c ∈ rest.head?, c.isDigit = false) :
    ∀ c ∈ (fractionText fraction ++ rest).head?, c.isDigit = false := by
  cases fraction with
  | none => exact hrest
  | some digits => simp [fractionText]

/-- The parts of a number are read to their end. -/
theorem numberParts_append (t : NumberText) (hrest : EndsValue rest) :
    numberParts (t.unsigned ++ rest) =
      some (t.whole.val, t.fraction.map Subtype.val, t.exponent, rest) := by
  obtain ⟨hne, hwhole⟩ := t.whole.property
  have hfirst : (t.whole.val.isEmpty ||
      (decide (t.whole.val.head? = some '0') && decide (1 < t.whole.val.length))) = false := by
    simp only [Bool.or_eq_false_iff, Bool.and_eq_false_imp, decide_eq_true_eq,
      decide_eq_false_iff_not, List.isEmpty_eq_false_iff]
    refine ⟨hne, fun hzero => ?_⟩
    have hone := t.leading hzero
    omega
  have hexponent := head?_exponentText t.exponent hrest
  have hfraction := head?_fractionText t.fraction fun c hc => (hexponent c hc).1
  rw [unsigned, List.append_assoc, List.append_assoc, numberParts_eq,
    takeDigits_append hwhole hfraction]
  simp only [hfirst, Bool.false_eq_true, if_false]
  rw [fractionPart_append t.fraction (fun c hc => (hexponent c hc).1)
    fun c hc => (hexponent c hc).2, Option.bind_some, exponentPart_append t.exponent hrest]
  rfl

/-- A number begins with a minus sign or a digit. -/
theorem exists_text_eq_cons (t : NumberText) :
    ∃ c more, t.text = c :: more ∧ (c = '-' ∨ c.isDigit = true) := by
  obtain ⟨hne, hwhole⟩ := t.whole.property
  obtain ⟨c, digits, hc⟩ := List.exists_cons_of_ne_nil hne
  rw [text, unsigned, hc]
  cases t.negative with
  | true => exact ⟨'-', _, rfl, .inl rfl⟩
  | false => exact ⟨c, _, rfl, .inr (hwhole c (hc ▸ List.mem_cons_self))⟩

/-- What is read once the sign has been taken off. -/
theorem numberParts_bind (t : NumberText) (hrest : EndsValue rest) : (do
      let (whole, fraction, exponent, rest) ← numberParts (t.unsigned ++ rest)
      let value ← match fraction, exponent with
        | none, none => integerValue t.negative whole
        | fraction, exponent => decimalValue t.negative whole (fraction.getD []) (exponent.getD 0)
      return (value, rest)) = t.value.map (·, rest) := by
  rw [numberParts_append t hrest, value]
  cases t.fraction <;> cases t.exponent <;> exact Option.map_eq_bind.symm

/-- A number is read to its end. -/
theorem number_append (t : NumberText) (hrest : EndsValue rest) :
    number (t.text ++ rest) = t.value.map (·, rest) := by
  rw [← numberParts_bind t hrest, text]
  cases t.negative with
  | true =>
    rewrite [if_pos rfl, List.singleton_append, List.cons_append, number]
    rfl
  | false =>
    rewrite [if_neg Bool.false_ne_true, List.nil_append, number]
    · rfl
    · intro after hminus
      obtain ⟨hne, hwhole⟩ := t.whole.property
      obtain ⟨c, digits, hc⟩ := List.exists_cons_of_ne_nil hne
      have hdigit : c.isDigit = true := hwhole c (hc ▸ List.mem_cons_self)
      rw [unsigned, hc, List.cons_append, List.cons_append, List.cons_append] at hminus
      exact ne_of_isDigit hdigit rfl (List.cons.inj hminus).1

end NumberText

/-! Integers -/

/-- Only zero begins with a zero. -/
theorem eq_zero_of_head?_toDigits {n : Nat} (h : (Nat.toDigits 10 n).head? = some '0') :
    n = 0 := by
  induction n using Nat.strongRecOn with
  | ind n ih =>
    by_cases hsmall : n < 10
    · rw [Nat.toDigits_of_lt_base hsmall, List.head?_cons, Option.some.injEq,
        Nat.digitChar_eq_zero] at h
      exact h
    · obtain ⟨c, digits, hc⟩ := List.exists_cons_of_ne_nil (Nat.toDigits_ne_nil (n := n / 10))
      rw [Nat.toDigits_of_base_le (by decide) (by omega), hc, List.cons_append,
        List.head?_cons] at h
      have hzero := ih (n / 10) (by omega) (by rw [hc, List.head?_cons, h])
      omega

def digitsOf (n : Nat) : Digits := ⟨Nat.toDigits 10 n, Nat.toDigits_ne_nil, isDigit_of_mem_toDigits⟩

theorem length_digitsOf {n : Nat} (h : (digitsOf n).val.head? = some '0') :
    (digitsOf n).val.length = 1 := by
  rw [eq_zero_of_head?_toDigits h]
  rfl

def integerText (n : Int) : NumberText := ⟨n < 0, digitsOf n.natAbs, none, none, length_digitsOf⟩

theorem text_integerText (n : Int) : (integerText n).text = (toString n).toList := by
  rw [toList_toString_int, NumberText.text, NumberText.unsigned, integerText]
  simp [NumberText.fractionText, NumberText.exponentText, digitsOf]

/-- Integers of 64 bits, with or without a sign, are read as themselves. -/
theorem value_integerText {n : Int} (hlow : -9223372036854775808 ≤ n)
    (hhigh : n < 18446744073709551616) : (integerText n).value = some (.int n) := by
  have hvalue : (integerText n).value = integerValue (n < 0) (Nat.toDigits 10 n.natAbs) := rfl
  have hfits : ¬ Nat.pow 2 64 ≤ n.natAbs := by
    have hpow : Nat.pow 2 64 = 18446744073709551616 := by decide
    omega
  rw [hvalue, integerValue]
  simp only [foldl_toDigits, if_neg hfits]
  by_cases hneg : n < 0
  · have hpow : Nat.pow 2 63 = 9223372036854775808 := by decide
    rw [if_neg (by simpa using hneg), if_pos (by omega)]
    congr 2
    omega
  · rw [if_pos (by simpa using hneg)]
    congr 2
    omega

/-! Doubles -/

/-- Digits that are all zeros trimmed away have no exponent left. -/
theorem exponent_trim (decimal : Binary64.Scientific) (h : decimal.trim.digits = 0) :
    decimal.trim.exponent = 0 := by
  fun_induction Binary64.Scientific.trim decimal with
  | case1 => rfl
  | case2 decimal hne hzero ih => exact ih h
  | case3 decimal hne hlast => exact absurd h hne

theorem exponent_shortest (tie : Binary64.Tie) (mantissa : Nat) (exponent : Int)
    (h : (Binary64.shortest tie mantissa exponent).digits = 0) :
    (Binary64.shortest tie mantissa exponent).exponent = 0 := by
  unfold Binary64.shortest at h ⊢
  split
  · rfl
  · next hne =>
    rw [if_neg hne] at h
    exact exponent_trim _ h

def NumberText.IsMarked (t : NumberText) : Prop := t.fraction ≠ none ∨ t.exponent ≠ none

/-- A text after the sign of a number with a fraction or an exponent. -/
def IsMarkedText (text : List Char) : Prop :=
  ∀ negative, ∃ t : NumberText, t.negative = negative ∧ t.IsMarked ∧ t.unsigned = text

/-- Digits, a point and more digits if there are any, and an exponent or none. -/
theorem isMarkedText (whole fraction : List Char) (exponent : Option Int) (hne : whole ≠ [])
    (hwhole : ∀ c ∈ whole, c.isDigit = true)
    (hleading : whole.head? = some '0' → whole.length = 1)
    (hfraction : ∀ c ∈ fraction, c.isDigit = true) (hmarked : fraction ≠ [] ∨ exponent ≠ none) :
    IsMarkedText (whole ++ (if fraction = [] then [] else '.' :: fraction) ++
      NumberText.exponentText exponent) := by
  intro negative
  by_cases hpoint : fraction = []
  · refine ⟨⟨negative, ⟨whole, hne, hwhole⟩, none, exponent, hleading⟩, rfl, ?_, ?_⟩
    · exact .inr (hmarked.resolve_left (not_not_intro hpoint))
    · rw [if_pos hpoint]
      rfl
  · refine ⟨⟨negative, ⟨whole, hne, hwhole⟩, some ⟨fraction, hpoint, hfraction⟩, exponent,
      hleading⟩, rfl, .inl (Option.some_ne_none _), ?_⟩
    rw [if_neg hpoint]
    rfl

section Forms

variable {digits : List Char} (hne : digits ≠ []) (hall : ∀ c ∈ digits, c.isDigit = true)
  (hleading : digits.head? = some '0' → digits.length = 1)

theorem isDigit_of_mem_replicate (n : Nat) : ∀ c ∈ List.replicate n '0', c.isDigit = true := by
  simp

include hne hall

/-- One digit, the others after a point, and an exponent. -/
theorem isMarkedText_exponent (exponent : Int) :
    IsMarkedText (digits.take 1 ++ (if digits.drop 1 = [] then [] else '.' :: digits.drop 1) ++
      'e' :: (toString exponent).toList) := by
  refine isMarkedText (digits.take 1) (digits.drop 1) (some exponent) (by simpa using hne)
    (fun c hc => hall c (List.mem_of_mem_take hc)) (fun _ => ?_)
    (fun c hc => hall c (List.mem_of_mem_drop hc)) (.inr (Option.some_ne_none _))
  have hpos : 0 < digits.length := List.length_pos_iff.mpr hne
  rw [List.length_take]
  omega

/-- Zeros before and after the point, and the digits. -/
theorem isMarkedText_zeros (zeros : Nat) :
    IsMarkedText ('0' :: '.' :: (List.replicate zeros '0' ++ digits)) := by
  have h := isMarkedText ['0'] (List.replicate zeros '0' ++ digits) none (List.cons_ne_nil _ _)
    (isDigit_of_mem_replicate 1) (fun _ => rfl)
    (List.forall_mem_append.mpr ⟨isDigit_of_mem_replicate zeros, hall⟩) (.inl (by simp [hne]))
  simpa [hne, NumberText.exponentText] using h

include hleading

/-- The point stands among the digits. -/
theorem isMarkedText_inside (place : Nat) (hpositive : 0 < place) (hplace : place < digits.length) :
    IsMarkedText (digits.take place ++ '.' :: digits.drop place) := by
  have hrest : digits.drop place ≠ [] := by simpa using hplace
  have h := isMarkedText (digits.take place) (digits.drop place) none (by simp [hne]; omega)
    (fun c hc => hall c (List.mem_of_mem_take hc)) (fun hzero => ?_)
    (fun c hc => hall c (List.mem_of_mem_drop hc)) (.inl hrest)
  · simpa [hrest, NumberText.exponentText] using h
  · rw [List.head?_take, if_neg (by omega)] at hzero
    have hone := hleading hzero
    omega

/-- Zeros up to the point, and one after it. -/
theorem isMarkedText_beyond (zeros : Nat) (hzeros : digits.head? = some '0' → zeros = 0) :
    IsMarkedText (digits ++ List.replicate zeros '0' ++ ['.', '0']) := by
  have h := isMarkedText (digits ++ List.replicate zeros '0') ['0'] none (by simp [hne])
    (List.forall_mem_append.mpr ⟨hall, isDigit_of_mem_replicate zeros⟩) (fun hzero => ?_)
    (isDigit_of_mem_replicate 1) (.inl (List.cons_ne_nil _ _))
  · simpa [NumberText.exponentText] using h
  · obtain ⟨c, others, rfl⟩ := List.exists_cons_of_ne_nil hne
    rw [List.cons_append, List.head?_cons] at hzero
    rw [hzeros (by rwa [List.head?_cons])]
    simpa using hleading (by rwa [List.head?_cons])

end Forms

/-- A decimal in a document has a fraction or an exponent. -/
theorem isMarkedText_write (decimal : Binary64.Scientific)
    (hzero : decimal.digits = 0 → decimal.exponent = 0) :
    IsMarkedText (Binary64.documentLayout.write decimal).toList := by
  have hlength : (toString decimal.digits).length = (Nat.toDigits 10 decimal.digits).length := by
    rw [← String.length_toList, Nat.toString_eq_repr, Nat.toList_repr]
  have hleading (h : (Nat.toDigits 10 decimal.digits).head? = some '0') :
      (Nat.toDigits 10 decimal.digits).length = 1 := length_digitsOf h
  have hexponent (h : (Nat.toDigits 10 decimal.digits).head? = some '0') :
      decimal.exponent = 0 := hzero (eq_zero_of_head?_toDigits h)
  have hall := isDigit_of_mem_toDigits (n := decimal.digits)
  have hne := Nat.toDigits_ne_nil (n := decimal.digits) (b := 10)
  unfold Binary64.Layout.write
  simp only [hlength]
  generalize hdigits : Nat.toDigits 10 decimal.digits = digits
    at hlength hleading hexponent hall hne ⊢
  split
  · have h := isMarkedText_exponent hne hall (digits.length + decimal.exponent - 1)
    by_cases hothers : digits.tail = [] <;> simpa [hdigits, hothers] using h
  · split
    · have h := isMarkedText_zeros hne hall (-(digits.length + decimal.exponent)).toNat
      simpa [hdigits] using h
    · split
      · next hpositive hinside =>
        have h := isMarkedText_inside hne hall hleading
          (digits.length + decimal.exponent).toNat (by omega) (by omega)
        simpa [hdigits] using h
      · next hpositive hbeyond =>
        have h := isMarkedText_beyond hne hall hleading
          (digits.length + decimal.exponent - digits.length).toNat
          (fun hfirst => by rw [hexponent hfirst]; omega)
        simpa [hdigits, Binary64.documentLayout] using h

/-- Every finite double is written with a fraction or an exponent. -/
theorem exists_text_double {x : Binary64} (h : x.isFinite = true) :
    ∃ t : NumberText, t.IsMarked ∧ t.text = (x.text Binary64.documentLayout).toList := by
  cases x with
  | nan => exact nomatch h
  | infinity negative => exact nomatch h
  | finite negative mantissa exponent =>
    obtain ⟨t, rfl, hmarked, ht⟩ := isMarkedText_write
      (Binary64.shortest Binary64.documentLayout.tie mantissa exponent)
      (exponent_shortest _ mantissa exponent) negative
    refine ⟨t, hmarked, ?_⟩
    rw [NumberText.text, ht, Binary64.text, String.toList_append]
    cases t.negative <;> rfl

/-- A number with a fraction or an exponent is read as a double, if at all. -/
theorem NumberText.IsMarked.exists_value {t : NumberText} (h : t.IsMarked) :
    ∃ found : Option Binary64, t.value = found.map .double := by
  have hdecimal (fraction : List Char) (exponent : Int) : ∃ found : Option Binary64,
      decimalValue t.negative t.whole.val fraction exponent = found.map .double :=
    ⟨_, (Option.map_map ..).symm⟩
  rw [NumberText.value]
  cases hfraction : t.fraction with
  | some digits => exact hdecimal _ _
  | none =>
    cases hexponent : t.exponent with
    | some exponent => exact hdecimal _ _
    | none =>
      rcases h with hmarked | hmarked
      · exact absurd hfraction hmarked
      · exact absurd hexponent hmarked

def rereadDouble (x : Binary64) : Option Binary64 :=
  (number (x.text Binary64.documentLayout).toList).bind fun (value, _) => value.asDouble?

/-- The text of a double is read as a double, if at all. -/
theorem exists_value_double {x : Binary64} (h : x.isFinite = true) :
    ∃ t : NumberText, t.text = (x.text Binary64.documentLayout).toList ∧
      t.value = (rereadDouble x).map .double := by
  obtain ⟨t, hmarked, ht⟩ := exists_text_double h
  obtain ⟨found, hfound⟩ := hmarked.exists_value
  have halone := t.number_append endsValue_nil
  rw [List.append_nil, hfound] at halone
  refine ⟨t, ht, ?_⟩
  rw [rereadDouble, ← ht, halone, hfound]
  cases found <;> rfl

end SearchStore.Json
