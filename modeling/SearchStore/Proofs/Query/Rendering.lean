import Mathlib.Algebra.Group.Nat.Defs
import Mathlib.Data.List.Forall2
import SearchStore.Query.Basic

/-!
What the rendering of a query keeps. It says of what kind the query is, and under this
word all that the query has stands in its place: a list of clauses is left out only if it
is empty, and a bound only if there is none. So two queries are rendered alike exactly if
they are the same tree, but for bounds that are written alike. Two doubles are written
alike if they are the same, if both are zero, whatever their signs, and if neither of them
is a finite number.
-/

namespace SearchStore

namespace Binary64

/-- The number is written with its largest mantissa, within the bounds of its format. -/
def IsCanonical : Binary64 → Prop
  | .finite _ mantissa exponent =>
    mantissa < 2 ^ 53 ∧ -1074 ≤ exponent ∧ exponent ≤ 971 ∧
      (mantissa < 2 ^ 52 → exponent = -1074)
  | _ => True

variable {negative negative' : Bool} {mantissa mantissa' : Nat} {exponent exponent' : Int}

/-- Of two ways to write a magnitude the one with the greater exponent has a smaller
mantissa, so it is not the one with the largest. -/
theorem exponent_le_of_magnitude_eq (hmantissa : mantissa < 2 ^ 53) (hexponent : -1074 ≤ exponent)
    (hlargest : mantissa' < 2 ^ 52 → exponent' = -1074)
    (h : mantissa * 2 ^ (exponent.toNat + (-exponent').toNat) =
      mantissa' * 2 ^ (exponent'.toNat + (-exponent).toNat)) : exponent' ≤ exponent := by
  by_contra hgreater
  have hmantissa' : 2 ^ 52 ≤ mantissa' := by
    by_contra hsmall
    have hlowest := hlargest (by omega)
    omega
  obtain ⟨places, hplaces⟩ : ∃ places, exponent'.toNat + (-exponent).toNat =
      places + 1 + (exponent.toNat + (-exponent').toNat) :=
    ⟨(exponent' - exponent).toNat - 1, by omega⟩
  rw [hplaces, Nat.pow_add 2 (places + 1), ← Nat.mul_assoc] at h
  have hsame : mantissa = mantissa' * 2 ^ (places + 1) :=
    Nat.eq_of_mul_eq_mul_right (Nat.two_pow_pos _) h
  have hpower : 2 ^ 1 ≤ 2 ^ (places + 1) := Nat.pow_le_pow_right (by omega) (by omega)
  have hproduct := Nat.mul_le_mul hmantissa' hpower
  omega

/-- A magnitude has one canonical form. -/
theorem canonical_unique (h : (finite negative mantissa exponent).IsCanonical)
    (h' : (finite negative' mantissa' exponent').IsCanonical)
    (hmagnitude : mantissa * 2 ^ (exponent.toNat + (-exponent').toNat) =
      mantissa' * 2 ^ (exponent'.toNat + (-exponent).toNat)) :
    mantissa = mantissa' ∧ exponent = exponent' := by
  obtain ⟨hmantissa, hexponent, -, hlargest⟩ := h
  obtain ⟨hmantissa', hexponent', -, hlargest'⟩ := h'
  have hexponents : exponent = exponent' := by
    apply Int.le_antisymm
    · exact exponent_le_of_magnitude_eq hmantissa' hexponent' hlargest hmagnitude.symm
    · exact exponent_le_of_magnitude_eq hmantissa hexponent hlargest' hmagnitude
  subst hexponents
  exact ⟨Nat.eq_of_mul_eq_mul_right (Nat.two_pow_pos _) hmagnitude, rfl⟩

theorem toInt?_finite_eq_some {i : Int} (h : (finite negative mantissa exponent).toInt? = some i) :
    ∃ size : Nat, mantissa * 2 ^ exponent.toNat = size * 2 ^ (-exponent).toNat ∧
      i = if negative then -(size : Int) else size := by
  simp only [toInt?] at h
  split at h
  · next hwhole =>
    exact ⟨_, (Nat.div_mul_cancel (Nat.dvd_of_mod_eq_zero hwhole)).symm, (Option.some.inj h).symm⟩
  · exact nomatch h

/-- Canonical doubles that are the same integer are the same, but for the sign of zero. -/
theorem eq_or_isZero_of_toInt?_eq {x y : Binary64} (hx : x.IsCanonical) (hy : y.IsCanonical)
    {i : Int} (hxi : x.toInt? = some i) (hyi : y.toInt? = some i) :
    x = y ∨ x.isZero = true ∧ y.isZero = true := by
  cases x with
  | nan => exact nomatch hxi
  | infinity => exact nomatch hxi
  | finite negative mantissa exponent =>
    cases y with
    | nan => exact nomatch hyi
    | infinity => exact nomatch hyi
    | finite negative' mantissa' exponent' =>
      obtain ⟨size, hsize, hi⟩ := toInt?_finite_eq_some hxi
      obtain ⟨size', hsize', hi'⟩ := toInt?_finite_eq_some hyi
      have hsizes : size = size' := by
        cases negative <;> cases negative' <;> simp at hi hi' <;> omega
      subst hsizes
      have hmagnitude : mantissa * 2 ^ (exponent.toNat + (-exponent').toNat) =
          mantissa' * 2 ^ (exponent'.toNat + (-exponent).toNat) := by
        rw [Nat.pow_add, ← Nat.mul_assoc, hsize, Nat.pow_add, ← Nat.mul_assoc, hsize',
          Nat.mul_right_comm]
      obtain ⟨rfl, rfl⟩ := canonical_unique hx hy hmagnitude
      cases size with
      | zero =>
        right
        have hzero : mantissa = 0 := by
          rw [Nat.zero_mul] at hsize
          exact (Nat.mul_eq_zero.mp hsize).resolve_right (Nat.ne_of_gt (Nat.two_pow_pos _))
        simp [isZero, hzero]
      | succ size =>
        left
        have hsigns : negative = negative' := by
          cases negative <;> cases negative' <;> simp at hi hi' ⊢ <;> omega
        rw [hsigns]

end Binary64

namespace Query

/-- The same tree, but for bounds of ranges that are written alike. -/
inductive SameButBounds : Query → Query → Prop
  | term (field : String) (value : Json) : SameButBounds (.term field value) (.term field value)
  | terms (field : String) (values : List Json) :
      SameButBounds (.terms field values) (.terms field values)
  | range (field : String) {gt gt' : Binary64} {lt lt' : Option Binary64}
      (hgt : bound gt = bound gt') (hlt : lt.map bound = lt'.map bound) :
      SameButBounds (.range field gt lt) (.range field gt' lt')
  | textMatch (field pattern : String) :
      SameButBounds (.textMatch field pattern) (.textMatch field pattern)
  | bool {must must' should should' : List Query} (hmust : List.Forall₂ SameButBounds must must')
      (hshould : List.Forall₂ SameButBounds should should') :
      SameButBounds (.bool must should) (.bool must' should')
  | nested (path : String) {query query' : Query} (innerHitsSize : Nat)
      (hquery : SameButBounds query query') :
      SameButBounds (.nested path query innerHitsSize) (.nested path query' innerHitsSize)

section Bounds

variable {x y : Binary64}

theorem bound_of_not_finite (h : x.isFinite = false) : bound x = .null := by
  cases x with
  | finite => exact nomatch h
  | nan => rfl
  | infinity => rfl

/-- A finite bound is an integer that it is, or itself. -/
theorem bound_of_finite (h : x.isFinite = true) :
    (∃ i, x.toInt? = some i ∧ bound x = .int i) ∨ bound x = .double x := by
  unfold bound
  split
  · next i hi =>
    split
    · exact .inl ⟨i, hi, rfl⟩
    · exact .inr (by simp [Json.ofDouble, h])
  · exact .inr (by simp [Json.ofDouble, h])

theorem bound_of_isZero (h : x.isZero = true) : bound x = .int 0 := by
  cases x with
  | nan => exact nomatch h
  | infinity => exact nomatch h
  | finite negative mantissa exponent =>
    obtain rfl : mantissa = 0 := by simpa [Binary64.isZero] using h
    cases negative <;> simp [bound, Binary64.toInt?, Binary64.ratio]

/-- The doubles that are written alike. -/
theorem bound_eq_iff (hx : x.IsCanonical) (hy : y.IsCanonical) :
    bound x = bound y ↔ x = y ∨ x.isFinite = false ∧ y.isFinite = false ∨
      x.isZero = true ∧ y.isZero = true := by
  constructor
  · intro h
    cases hxfinite : x.isFinite with
    | false =>
      rw [bound_of_not_finite hxfinite] at h
      cases hyfinite : y.isFinite with
      | false => exact .inr (.inl ⟨rfl, rfl⟩)
      | true => rcases bound_of_finite hyfinite with ⟨j, -, hj⟩ | hj <;> simp [hj] at h
    | true =>
      cases hyfinite : y.isFinite with
      | false =>
        rw [bound_of_not_finite hyfinite] at h
        rcases bound_of_finite hxfinite with ⟨i, -, hi⟩ | hi <;> simp [hi] at h
      | true =>
        rcases bound_of_finite hxfinite with ⟨i, hxi, hi⟩ | hi <;>
          rcases bound_of_finite hyfinite with ⟨j, hyj, hj⟩ | hj <;> rw [hi, hj] at h
        · obtain rfl := Json.int.inj h
          exact (Binary64.eq_or_isZero_of_toInt?_eq hx hy hxi hyj).imp_right .inr
        · exact nomatch h
        · exact nomatch h
        · exact .inl (Json.double.inj h)
  · rintro (rfl | ⟨hxfinite, hyfinite⟩ | ⟨hxzero, hyzero⟩)
    · rfl
    · rw [bound_of_not_finite hxfinite, bound_of_not_finite hyfinite]
    · rw [bound_of_isZero hxzero, bound_of_isZero hyzero]

end Bounds

def boundMembers (gt : Binary64) (lt : Option Binary64) : List (String × Json) :=
  ("gt", bound gt) :: match lt with
    | some lt => [("lt", bound lt)]
    | none => []

theorem toJson_range (field : String) (gt : Binary64) (lt : Option Binary64) :
    (range field gt lt).toJson = .obj [("range", .obj [(field, .obj (boundMembers gt lt))])] := by
  cases lt <;> simp only [toJson, boundMembers]

theorem boundMembers_eq_iff {gt gt' : Binary64} {lt lt' : Option Binary64} :
    boundMembers gt lt = boundMembers gt' lt' ↔
      bound gt = bound gt' ∧ lt.map bound = lt'.map bound := by
  cases lt <;> cases lt' <;> simp [boundMembers]

/-- A list of clauses is left out exactly if it is empty. -/
theorem clauseMembers_eq_iff {must must' should should' : List Json} :
    clauseMember "must" must ++ clauseMember "should" should =
        clauseMember "must" must' ++ clauseMember "should" should' ↔
      must = must' ∧ should = should' := by
  cases must <;> cases must' <;> cases should <;> cases should' <;> simp [clauseMember]

mutual

/-- Queries are rendered alike exactly if they are the same but for bounds that are written
alike: what a kind of query has, its rendering has under the word for this kind. -/
theorem toJson_eq_iff : (a b : Query) → (a.toJson = b.toJson ↔ SameButBounds a b)
  | .term field value, b => by
    cases b with
    | term field' value' =>
      simp only [toJson, Json.obj.injEq, List.cons.injEq, Prod.mk.injEq, and_true, true_and]
      constructor
      · rintro ⟨rfl, rfl⟩
        exact .term field value
      · rintro ⟨⟩
        exact ⟨rfl, rfl⟩
    | _ => exact iff_of_false (by simp [toJson]) nofun
  | .terms field values, b => by
    cases b with
    | terms field' values' =>
      simp only [toJson, Json.obj.injEq, Json.arr.injEq, List.cons.injEq, Prod.mk.injEq, and_true,
        true_and]
      constructor
      · rintro ⟨rfl, rfl⟩
        exact .terms field values
      · rintro ⟨⟩
        exact ⟨rfl, rfl⟩
    | _ => exact iff_of_false (by simp [toJson]) nofun
  | .range field gt lt, b => by
    cases b with
    | range field' gt' lt' =>
      simp only [toJson_range, Json.obj.injEq, List.cons.injEq, Prod.mk.injEq, and_true, true_and]
      rw [boundMembers_eq_iff]
      constructor
      · rintro ⟨rfl, hgt, hlt⟩
        exact .range field hgt hlt
      · rintro ⟨⟩
        exact ⟨rfl, ‹_›, ‹_›⟩
    | _ => exact iff_of_false (by simp [toJson]) nofun
  | .textMatch field pattern, b => by
    cases b with
    | textMatch field' pattern' =>
      simp only [toJson, Json.obj.injEq, Json.str.injEq, List.cons.injEq, Prod.mk.injEq, and_true,
        true_and]
      constructor
      · rintro ⟨rfl, rfl⟩
        exact .textMatch field pattern
      · rintro ⟨⟩
        exact ⟨rfl, rfl⟩
    | _ => exact iff_of_false (by simp [toJson]) nofun
  | .bool must should, b => by
    cases b with
    | bool must' should' =>
      simp only [toJson, Json.obj.injEq, List.cons.injEq, Prod.mk.injEq, and_true, true_and]
      rw [clauseMembers_eq_iff, listToJson_eq_iff must must', listToJson_eq_iff should should']
      constructor
      · rintro ⟨hmust, hshould⟩
        exact .bool hmust hshould
      · rintro ⟨⟩
        exact ⟨‹_›, ‹_›⟩
    | _ => exact iff_of_false (by simp [toJson]) nofun
  | .nested path query size, b => by
    cases b with
    | nested path' query' size' =>
      simp only [toJson, Json.obj.injEq, Json.str.injEq, Json.int.injEq, Int.ofNat_inj,
        List.cons.injEq, Prod.mk.injEq, and_true, true_and]
      rw [toJson_eq_iff query query']
      constructor
      · rintro ⟨rfl, hquery, rfl⟩
        exact .nested path size hquery
      · rintro ⟨⟩
        exact ⟨rfl, ‹_›, rfl⟩
    | _ => exact iff_of_false (by simp [toJson]) nofun

theorem listToJson_eq_iff : (as bs : List Query) →
    (listToJson as = listToJson bs ↔ List.Forall₂ SameButBounds as bs)
  | [], bs => by cases bs <;> simp [listToJson]
  | a :: as, [] => by simp [listToJson]
  | a :: as, b :: bs => by
    rw [listToJson, listToJson, List.cons.injEq, toJson_eq_iff a b, listToJson_eq_iff as bs,
      List.forall₂_cons]

end

/-- The rendering of a query loses nothing but what is lost of the bounds of its ranges, and
of a bound the sign of a zero is lost, and which one it is of the doubles that are no finite
numbers. -/
theorem rendered_alike_iff (a b : Query) :
    (a.toJson = b.toJson ↔ SameButBounds a b) ∧
    ∀ x y : Binary64, x.IsCanonical → y.IsCanonical →
      (bound x = bound y ↔ x = y ∨ x.isFinite = false ∧ y.isFinite = false ∨
        x.isZero = true ∧ y.isZero = true) :=
  ⟨toJson_eq_iff a b, fun _ _ hx hy => bound_eq_iff hx hy⟩

/-- Orders with a line above zero and below no number, or below nothing at all. -/
def linesAbove (zero : Binary64) (lt : Option Binary64) : Query :=
  .bool [] [.nested "lines" (.range "lines.quantity" zero lt) 100]

/-- The sign of zero is not seen, but an upper bound that is no number is. -/
theorem rendered_alike_iff_linesAbove :
    Binary64.zero.IsCanonical ∧ Binary64.zero.negate.IsCanonical ∧
      (linesAbove .zero (some .nan)).toJson =
        (linesAbove Binary64.zero.negate (some (.infinity false))).toJson ∧
      (linesAbove .zero (some .nan)).toJson ≠ (linesAbove .zero none).toJson := by
  have hzero : Binary64.zero.IsCanonical := by
    refine ⟨?_, ?_, ?_, ?_⟩ <;> decide
  have hnegative : Binary64.zero.negate.IsCanonical := hzero
  obtain ⟨hsame, hbounds⟩ := rendered_alike_iff (linesAbove .zero (some .nan))
    (linesAbove Binary64.zero.negate (some (.infinity false)))
  have hgt := (hbounds .zero Binary64.zero.negate hzero hnegative).mpr (.inr (.inr ⟨rfl, rfl⟩))
  have hlt := (hbounds .nan (.infinity false) trivial trivial).mpr (.inr (.inl ⟨rfl, rfl⟩))
  refine ⟨hzero, hnegative, hsame.mpr ?_, fun hopen => ?_⟩
  · exact .bool .nil (.cons (.nested _ _ (.range _ hgt (congrArg some hlt))) .nil)
  · cases (rendered_alike_iff _ _).1.mp hopen with
    | bool _ hshould =>
      cases hshould with
      | cons hnested _ =>
        cases hnested with
        | nested _ _ hrange =>
          cases hrange with
          | range _ _ hupper => exact nomatch hupper

end Query

end SearchStore
