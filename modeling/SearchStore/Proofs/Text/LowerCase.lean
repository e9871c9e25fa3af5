import SearchStore.Text.Blank
import SearchStore.Text.LowerCase

/-!
The lower case of one character. It is the character itself, or it starts with a letter
that is its own lower case. So the first character of a lower case is left alone when it is
lowered again, no dot comes in with it, and it is white space only if the character is.

That no run of the table goes on from a code point that another run comes to is read off the
sets of these code points, each written as the bits of one number.
-/

namespace SearchStore.Text

/-- A character that stands at the front of a lower case. -/
structure IsSmall (c : Char) : Prop where
  lowerChar_eq : lowerChar c = [c]
  ne_dot : c ≠ '.'
  not_white : isWhite c = false

instance (c : Char) : Decidable (IsSmall c) :=
  decidable_of_iff (lowerChar c = [c] ∧ c ≠ '.' ∧ isWhite c = false)
    ⟨fun ⟨hlower, hdot, hwhite⟩ => ⟨hlower, hdot, hwhite⟩, fun h => ⟨h.1, h.2, h.3⟩⟩

/-! Sets of code points -/

def codeBits : List Nat → Nat
  | [] => 0
  | code :: rest => 1 <<< code ||| codeBits rest

theorem testBit_codeBits (codes : List Nat) (code : Nat) :
    (codeBits codes).testBit code = true ↔ code ∈ codes := by
  induction codes with
  | nil => simp [codeBits]
  | cons other rest ih =>
    rw [codeBits, Nat.testBit_or, Bool.or_eq_true, ih, Nat.one_shiftLeft, Nat.testBit_two_pow,
      decide_eq_true_eq, List.mem_cons, eq_comm]

/-- Sets whose numbers share no bit share no code point. -/
theorem not_mem_of_codeBits {codes others : List Nat}
    (h : codeBits codes &&& codeBits others = 0) {code : Nat} (hcode : code ∈ codes) :
    code ∉ others := by
  intro hother
  have hbit : (codeBits codes &&& codeBits others).testBit code = true := by
    rw [Nat.testBit_and, (testBit_codeBits codes code).mpr hcode,
      (testBit_codeBits others code).mpr hother]
    rfl
  rw [h, Nat.zero_testBit] at hbit
  exact Bool.false_ne_true hbit

namespace CaseRun

def capitals (run : CaseRun) : List Nat :=
  (List.range ((run.last - run.first) / run.step + 1)).map (run.first + · * run.step)

def lowered (run : CaseRun) : List Nat :=
  run.capitals.map fun (code : Nat) => (code + run.distance).toNat

theorem mem_capitals {run : CaseRun} {code : Nat} (h : run.contains code = true) :
    code ∈ run.capitals := by
  simp only [contains, Bool.and_eq_true, decide_eq_true_eq, beq_iff_eq] at h
  obtain ⟨⟨hfirst, hlast⟩, hstep⟩ := h
  have hplace : run.first + (code - run.first) / run.step * run.step = code := by
    have hdiv := Nat.div_add_mod (code - run.first) run.step
    rw [hstep, Nat.mul_comm] at hdiv
    omega
  have hbound : (code - run.first) / run.step ≤ (run.last - run.first) / run.step :=
    Nat.div_le_div_right (by omega)
  exact List.mem_map.mpr ⟨_, List.mem_range.mpr (Nat.lt_succ_of_le hbound), hplace⟩

end CaseRun

theorem not_capital_of_lowered {code : Nat} (h : code ∈ caseRuns.flatMap CaseRun.lowered) :
    code ∉ caseRuns.flatMap CaseRun.capitals := by
  refine not_mem_of_codeBits ?_ h
  decide +kernel

/-- The runs come to characters that are no capitals of ASCII, no dots and no blanks. -/
theorem bounds_of_lowered : ∀ code ∈ caseRuns.flatMap CaseRun.lowered,
    (Char.ofNat code).toNat = code ∧ 'Z'.toNat < code ∧ code ≠ 'İ'.toNat ∧
      isWhite (Char.ofNat code) = false := by
  decide +kernel

/-! Lower cases -/

theorem lowerChar_ascii {c : Char} (h : c.toNat < 0x80) :
    lowerChar c = [c] ∨
      c.toNat ≤ 'Z'.toNat ∧ lowerChar c = [c.toLower] ∧ IsSmall c.toLower := by
  have hall : ∀ code ∈ List.range 0x80, lowerChar (Char.ofNat code) = [Char.ofNat code] ∨
      code ≤ 'Z'.toNat ∧ lowerChar (Char.ofNat code) = [(Char.ofNat code).toLower] ∧
        IsSmall (Char.ofNat code).toLower := by
    decide +kernel
  have hlower := hall c.toNat (List.mem_range.mpr h)
  rwa [Char.ofNat_toNat] at hlower

/-- A character beyond ASCII that is in no run is its own lower case. -/
theorem lowerChar_of_not_capital {c : Char} (hascii : 0x80 ≤ c.toNat) (hdotted : c ≠ 'İ')
    (h : c.toNat ∉ caseRuns.flatMap CaseRun.capitals) : lowerChar c = [c] := by
  have hnone : caseRuns.find? (·.contains c.toNat) = none := by
    rw [List.find?_eq_none]
    intro run hrun hcontains
    exact h (List.mem_flatMap.mpr ⟨run, hrun, CaseRun.mem_capitals hcontains⟩)
  rw [lowerChar, if_neg (Nat.not_lt.mpr hascii), if_neg hdotted, hnone]

theorem isSmall_of_lowered {code : Nat} (h : code ∈ caseRuns.flatMap CaseRun.lowered) :
    IsSmall (Char.ofNat code) := by
  obtain ⟨hvalue, hbound, hdotted, hwhite⟩ := bounds_of_lowered code h
  have hcapital := not_capital_of_lowered h
  refine ⟨?_, ?_, hwhite⟩
  · by_cases hascii : code < 0x80
    · have hlower := lowerChar_ascii (c := Char.ofNat code) (hvalue.symm ▸ hascii)
      exact hlower.resolve_right fun hletter =>
        Nat.not_le.mpr hbound (hvalue ▸ hletter.1)
    · apply lowerChar_of_not_capital
      · omega
      · intro hchar
        rw [hchar] at hvalue
        exact hdotted hvalue.symm
      · rwa [hvalue]
  · intro hdot
    have hcode : '.'.toNat < 'Z'.toNat := by decide
    rw [hdot] at hvalue
    omega

/-- A character is its own lower case, or its lower case starts with a small letter. -/
theorem lowerChar_cases (c : Char) :
    lowerChar c = [c] ∨
      ∃ small rest, lowerChar c = small :: rest ∧ IsSmall small ∧ '.' ∉ rest := by
  by_cases hascii : c.toNat < 0x80
  · rcases lowerChar_ascii hascii with hself | ⟨-, hlower, hsmall⟩
    · exact .inl hself
    · exact .inr ⟨c.toLower, [], hlower, hsmall, List.not_mem_nil⟩
  · by_cases hdotted : c = 'İ'
    · subst hdotted
      exact .inr ⟨'i', ['\u0307'], rfl, by decide +kernel, by decide⟩
    · rw [lowerChar, if_neg hascii, if_neg hdotted]
      cases hrun : caseRuns.find? (fun run => run.contains c.toNat) with
      | none => exact .inl rfl
      | some run =>
        have hcontains := List.find?_some hrun
        have hlowered : (c.toNat + run.distance).toNat ∈ run.lowered :=
          List.mem_map_of_mem (CaseRun.mem_capitals hcontains)
        have hsmall := isSmall_of_lowered
          (List.mem_flatMap.mpr ⟨run, List.mem_of_find?_eq_some hrun, hlowered⟩)
        exact .inr ⟨_, [], rfl, hsmall, List.not_mem_nil⟩

theorem lowerChar_ne_nil (c : Char) : lowerChar c ≠ [] := by
  rcases lowerChar_cases c with hself | ⟨small, rest, hlower, -, -⟩
  · simp [hself]
  · simp [hlower]

/-- There is no dot in the lower case of another character. -/
theorem dot_not_mem_lowerChar {c : Char} (hc : c ≠ '.') : '.' ∉ lowerChar c := by
  rcases lowerChar_cases c with hself | ⟨small, rest, hlower, hsmall, hrest⟩
  · simpa [hself] using hc.symm
  · rw [hlower, List.mem_cons, not_or]
    exact ⟨hsmall.ne_dot.symm, hrest⟩

end SearchStore.Text
