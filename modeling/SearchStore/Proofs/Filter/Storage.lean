import SearchStore.Filter.Stored
import SearchStore.Proofs.Json.Rereading
import SearchStore.Proofs.Schema.Paths
import SearchStore.Query.Compilation

/-!
Filters that are stored and read again. Nothing of a stored field is lost, but a decimal is
kept as the string of its digits, and a string is what it comes back as; so a field with a
decimal comes back as another one, and where it asks anything it asks for a string instead
of a number. In a text a double is besides kept as its digits, and comes back as the double
that is read from them.
-/

namespace SearchStore

namespace FieldValue

/-- What a stored value is read as: a decimal as the string of its digits. -/
def restored : FieldValue → FieldValue
  | .decimal d => .string d.text
  | value => value

def double? : FieldValue → Option Binary64
  | .double x => some x
  | _ => none

/-- What a stored value is read as where doubles are read as `again` says. -/
def reread? (again : Binary64 → Option Binary64) : FieldValue → Option FieldValue
  | .double x => (again x).map .double
  | value => some value.restored

end FieldValue

def RangeFilter.reread? (again : Binary64 → Option Binary64) (bounds : RangeFilter) :
    Option RangeFilter :=
  (bounds.min.mapM again).bind fun min => (bounds.max.mapM again).map (⟨min, ·⟩)

namespace FilterValue

def compared : FilterValue → List FieldValue
  | .list values => values
  | .scalar value => [value]
  | _ => []

def doubles : FilterValue → List Binary64
  | .range bounds => bounds.min.toList ++ bounds.max.toList
  | value => value.compared.filterMap FieldValue.double?

/-- What the type of a filter admits, with finite doubles. -/
structure IsStorable (value : FilterValue) : Prop where
  longs : ∀ n, .long n ∈ value.compared → Json.IsSigned64 n
  doubles : ∀ x ∈ value.doubles, x.isFinite = true

def restored : FilterValue → FilterValue
  | .list values => .list (values.map FieldValue.restored)
  | .scalar value => .scalar value.restored
  | value => value

def reread? (again : Binary64 → Option Binary64) : FilterValue → Option FilterValue
  | .range bounds => (bounds.reread? again).map .range
  | .list values => (values.mapM (FieldValue.reread? again)).map .list
  | .scalar value => (value.reread? again).map .scalar
  | value => some value

end FilterValue

namespace FilterField

def compared (field : FilterField) : List FieldValue := field.value.elim [] FilterValue.compared

def doubles (field : FilterField) : List Binary64 := field.value.elim [] FilterValue.doubles

def IsStorable (field : FilterField) : Prop := ∀ value ∈ field.value, value.IsStorable

def restored (field : FilterField) : FilterField :=
  { field with value := field.value.map FilterValue.restored }

def reread? (again : Binary64 → Option Binary64) (field : FilterField) : Option FilterField :=
  (field.value.mapM (FilterValue.reread? again)).map ({ field with value := · })

end FilterField

/-! Reading what is stored -/

section Stored

variable {back : Json → Option Json} {again : Binary64 → Option Binary64}

theorem FieldValue.ofStored?_back (hback : Json.Keeps back again) {value : FieldValue}
    (hlong : ∀ n, value = .long n → Json.IsSigned64 n)
    (hdouble : ∀ x, value.double? = some x → x.isFinite = true) :
    (back value.toStored).bind ofStored? = value.reread? again := by
  cases value with
  | string s =>
    rw [toStored, hback.str]
    rfl
  | long n =>
    rw [toStored, hback.int n (hlong n rfl), Option.bind_some, ofStored?, if_pos (hlong n rfl)]
    rfl
  | double x =>
    have hx := hdouble x rfl
    rw [toStored, Json.ofDouble, if_pos hx, hback.double x hx, reread?]
    cases again x <;> rfl
  | decimal d =>
    rw [toStored, hback.str]
    rfl
  | boolean b =>
    rw [toStored, hback.bool]
    rfl

/-- A bound that comes back, if there is one. -/
theorem back_bound (hback : Json.Keeps back again) {bound : Option Binary64}
    (h : ∀ x ∈ bound, x.isFinite = true) :
    back (.ofOption .ofDouble bound) = (bound.mapM again).map (.ofOption .double) := by
  cases bound with
  | none => exact hback.null
  | some x =>
    have hx := h x rfl
    rw [Json.ofOption, Json.ofDouble, if_pos hx, hback.double x hx, Option.mapM_some]
    cases again x <;> rfl

theorem RangeFilter.ofStored?_back (hback : Json.Keeps back again) {bounds : RangeFilter}
    (hmin : ∀ x ∈ bounds.min, x.isFinite = true) (hmax : ∀ x ∈ bounds.max, x.isFinite = true) :
    (back bounds.toStored).bind ofStored? = bounds.reread? again := by
  have hread (min max : Option Binary64) :
      ofStored? (.obj [("min", .ofOption .double min), ("max", .ofOption .double max)]) =
        some ⟨min, max⟩ := by
    cases min <;> cases max <;> rfl
  rw [toStored, hback.obj _ (by simp), List.mapM_option_cons, List.mapM_option_cons,
    Json.keptMember, Json.keptMember, back_bound hback hmin, back_bound hback hmax, reread?]
  cases bounds.min.mapM again with
  | none => rfl
  | some min =>
    cases bounds.max.mapM again with
    | none => rfl
    | some max => exact hread min max

/-- What is kept under one key comes back under it. -/
theorem bind_back_singleton {α β : Type} (hback : Json.Keeps back again) {key : String}
    {stored : Json} {decode : Json → Option α} {decodeWhole : Json → Option β} {wrap : α → β}
    (hkey : ∀ kept, decodeWhole (.obj [(key, kept)]) = (decode kept).map wrap) :
    (back (.obj [(key, stored)])).bind decodeWhole = ((back stored).bind decode).map wrap := by
  rw [hback.obj _ (by simp), List.mapM_option_cons, Json.keptMember]
  cases back stored with
  | none => rfl
  | some kept => exact hkey kept

/-- The elements of an array come back one by one. -/
theorem bind_back_arr {α β : Type} (hback : Json.Keeps back again) {encode : α → Json}
    {decode : Json → Option β} {read : α → Option β} {values : List α}
    (h : ∀ value ∈ values, (back (encode value)).bind decode = read value) :
    (back (.arr (values.map encode))).bind (Json.listOf decode) = values.mapM read := by
  rw [hback.arr, List.mapM_map, ← List.mapM_congr_left h]
  refine Eq.trans ?_ (List.mapM_bind_mapM (back ∘ encode) decode values)
  cases values.mapM (back ∘ encode) <;> rfl

theorem FilterValue.ofStored?_back (hback : Json.Keeps back again) {value : FilterValue}
    (h : value.IsStorable) : (back value.toStored).bind ofStored? = value.reread? again := by
  cases value with
  | range bounds =>
    have hbounds := RangeFilter.ofStored?_back hback
      (fun x hx => h.doubles x (List.mem_append_left _ (Option.mem_toList.mpr hx)))
      (fun x hx => h.doubles x (List.mem_append_right _ (Option.mem_toList.mpr hx)))
    rw [toStored, bind_back_singleton hback fun _ => rfl, hbounds, reread?]
  | text s =>
    rw [toStored, bind_back_singleton hback fun _ => rfl, hback.str]
    rfl
  | strings values =>
    have hvalues : (back (.strings values)).bind (Json.listOf Json.asString?) =
        values.mapM some := by
      refine bind_back_arr hback fun s _ => ?_
      rw [hback.str]
      rfl
    rw [toStored, bind_back_singleton hback fun _ => rfl, hvalues,
      List.mapM_eq_some_self_iff.mpr fun _ _ => rfl]
    rfl
  | list values =>
    have hvalues : (back (.arr (values.map FieldValue.toStored))).bind
        (Json.listOf FieldValue.ofStored?) = values.mapM (FieldValue.reread? again) := by
      refine bind_back_arr hback fun value hvalue => FieldValue.ofStored?_back hback ?_ ?_
      · rintro n rfl
        exact h.longs n hvalue
      · exact fun x hx => h.doubles x (List.mem_filterMap.mpr ⟨value, hvalue, hx⟩)
    rw [toStored, bind_back_singleton hback fun _ => rfl, hvalues, reread?]
  | scalar value =>
    have hvalue := FieldValue.ofStored?_back hback
      (fun n hn => h.longs n (List.mem_singleton.mpr hn.symm))
      (fun x hx => h.doubles x (List.mem_filterMap.mpr ⟨value, List.mem_singleton_self value, hx⟩))
    rw [toStored, bind_back_singleton hback fun _ => rfl, hvalue, reread?]

theorem FilterValue.back_ne_null (hback : Json.Keeps back again) (value : FilterValue) :
    back value.toStored ≠ some .null := by
  have hmembers : ∃ members, value.toStored = .obj members ∧ (members.map Prod.fst).Nodup := by
    cases value <;> exact ⟨_, rfl, List.nodup_singleton _⟩
  obtain ⟨members, hstored, hnodup⟩ := hmembers
  rw [hstored, hback.obj members hnodup, ne_eq, Option.map_eq_some_iff]
  exact fun ⟨_, _, hnull⟩ => nomatch hnull

/-- A value that may be missing comes back if it is there. -/
theorem FilterValue.optional_back (hback : Json.Keeps back again) {value : Option FilterValue}
    (h : ∀ v ∈ value, v.IsStorable) :
    ((back (.ofOption toStored value)).bind fun kept =>
      Json.optional ofStored? [("value", kept)] "value") = value.mapM (reread? again) := by
  cases value with
  | none =>
    rw [Json.ofOption, hback.null]
    rfl
  | some value =>
    -- A value is kept as an object, so `null` still stands for a missing one.
    have hvalue := ofStored?_back hback (h value rfl)
    have hnull := back_ne_null hback value
    rw [Json.ofOption, Option.mapM_some, ← hvalue]
    cases hkept : back value.toStored with
    | none => rfl
    | some kept =>
      cases kept with
      | null => exact absurd hkept hnull
      | _ => rfl

/-- A field is read from its members. -/
theorem FilterField.ofStored?_obj (name : String) (nested : Option String) (ignored : Bool)
    (kept : Json) : ofStored? (.obj [("name", .str name), ("nested", .ofOption .str nested),
      ("ignore", .bool ignored), ("value", kept)]) =
        (Json.optional FilterValue.ofStored? [("value", kept)] "value").map
          fun value => ⟨name, nested, ignored, value⟩ := by
  let members : List (String × Json) := [("name", .str name), ("nested", .ofOption .str nested),
    ("ignore", .bool ignored), ("value", kept)]
  have hname : Json.required Json.asString? members "name" = some name := rfl
  have hnested : Json.optional Json.asString? members "nested" = some nested := by
    cases nested <;> rfl
  have hignored : Json.required Json.asBool? members "ignore" = some ignored := rfl
  have hvalue : Json.optional FilterValue.ofStored? members "value" =
    Json.optional FilterValue.ofStored? [("value", kept)] "value" := rfl
  rw [ofStored?, Json.asObject?]
  change (some members).bind _ = _
  simp only [Option.bind_eq_bind, Option.bind_some, hname, hnested, hignored, hvalue]
  cases Json.optional FilterValue.ofStored? [("value", kept)] "value" <;> rfl

/-- A field comes back as it is, but for its decimals and doubles. -/
theorem FilterField.ofStored?_back (hback : Json.Keeps back again) {field : FilterField}
    (h : field.IsStorable) : (back field.toStored).bind ofStored? = field.reread? again := by
  have hnested : back (.ofOption .str field.nested) = some (.ofOption .str field.nested) := by
    cases field.nested with
    | none => exact hback.null
    | some path => exact hback.str path
  have hstored : back field.toStored =
      (back (.ofOption FilterValue.toStored field.value)).map fun kept =>
        .obj [("name", .str field.name), ("nested", .ofOption .str field.nested),
          ("ignore", .bool field.ignored), ("value", kept)] := by
    rw [toStored, hback.obj _ (by simp)]
    simp only [List.mapM_option_cons, Json.keptMember, hback.str, hback.bool, hnested]
    cases back (.ofOption FilterValue.toStored field.value) <;> rfl
  calc (back field.toStored).bind ofStored?
    _ = ((back (.ofOption FilterValue.toStored field.value)).bind fun kept =>
          Json.optional FilterValue.ofStored? [("value", kept)] "value").map
            fun value => ⟨field.name, field.nested, field.ignored, value⟩ := by
      rw [hstored, Option.bind_map, Option.map_bind]
      simp only [Function.comp_def, ofStored?_obj]
    _ = field.reread? again := by rw [FilterValue.optional_back hback h, reread?]

end Stored

/-! Decimals and doubles that come back -/

section Doubles

variable (again : Binary64 → Option Binary64)

/-- Only the decimals change where each double comes back as itself. -/
theorem FieldValue.reread?_some (value : FieldValue) :
    value.reread? some = some value.restored := by
  cases value <;> rfl

theorem FilterValue.reread?_some (value : FilterValue) :
    value.reread? some = some value.restored := by
  cases value with
  | range bounds => obtain ⟨_ | min, _ | max⟩ := bounds <;> rfl
  | list values =>
    have hvalues : values.mapM (FieldValue.reread? some) =
        some (values.map FieldValue.restored) := by
      rw [List.mapM_congr_left fun value _ => value.reread?_some]
      exact List.mapM_pure
    rw [reread?, hvalues]
    rfl
  | scalar value =>
    rw [reread?, value.reread?_some]
    rfl
  | _ => rfl

theorem FilterField.reread?_some (field : FilterField) :
    field.reread? some = some field.restored := by
  obtain ⟨name, nested, ignored, _ | value⟩ := field
  · rfl
  · simp [reread?, restored, value.reread?_some]

/-- A field is read if each of its doubles is. -/
theorem FieldValue.isSome_reread?_iff (value : FieldValue) :
    (value.reread? again).isSome = true ↔
      ∀ x, value.double? = some x → (again x).isSome = true := by
  cases value <;> simp [reread?, double?]

theorem RangeFilter.isSome_reread?_iff (bounds : RangeFilter) :
    (bounds.reread? again).isSome = true ↔
      ∀ x ∈ bounds.min.toList ++ bounds.max.toList, (again x).isSome = true := by
  have hbound (bound : Option Binary64) : (bound.mapM again).isSome = true ↔
      ∀ x ∈ bound.toList, (again x).isSome = true := by
    cases bound <;> simp
  rw [List.forall_mem_append, ← hbound, ← hbound, reread?]
  cases bounds.min.mapM again <;> simp

theorem FilterValue.isSome_reread?_iff (value : FilterValue) :
    (value.reread? again).isSome = true ↔ ∀ x ∈ value.doubles, (again x).isSome = true := by
  cases value with
  | range bounds =>
    rw [reread?, Option.isSome_map]
    exact bounds.isSome_reread?_iff again
  | list values =>
    simp only [reread?, Option.isSome_map, List.isSome_mapM_iff, FieldValue.isSome_reread?_iff]
    exact List.forall_mem_filterMap.symm
  | scalar value =>
    rw [reread?, Option.isSome_map, FieldValue.isSome_reread?_iff]
    simp [doubles, compared]
  | _ => simp [reread?, doubles, compared]

theorem FilterField.isSome_reread?_iff (field : FilterField) :
    (field.reread? again).isSome = true ↔ ∀ x ∈ field.doubles, (again x).isSome = true := by
  obtain ⟨name, nested, ignored, _ | value⟩ := field
  · simp [reread?, doubles]
  · simpa [reread?, doubles] using value.isSome_reread?_iff again

/-- A value comes back as itself if it is no decimal and its double, if it is one, does. -/
theorem FieldValue.reread?_eq_self_iff (value : FieldValue) :
    value.reread? again = some value ↔
      (∀ d, value ≠ .decimal d) ∧ ∀ x, value.double? = some x → again x = some x := by
  cases value <;> simp [reread?, double?, restored]

theorem RangeFilter.reread?_eq_self_iff (bounds : RangeFilter) :
    bounds.reread? again = some bounds ↔
      ∀ x ∈ bounds.min.toList ++ bounds.max.toList, again x = some x := by
  have hbound (bound : Option Binary64) : bound.mapM again = some bound ↔
      ∀ x ∈ bound.toList, again x = some x := by
    cases bound <;> simp
  rw [List.forall_mem_append, ← hbound, ← hbound, reread?, Option.bind_eq_some_iff]
  simp only [Option.map_eq_some_iff]
  constructor
  · rintro ⟨min, hmin, max, hmax, rfl⟩
    exact ⟨hmin, hmax⟩
  · rintro ⟨hmin, hmax⟩
    exact ⟨_, hmin, _, hmax, rfl⟩

theorem FilterValue.reread?_eq_self_iff (value : FilterValue) :
    value.reread? again = some value ↔
      (∀ d, .decimal d ∉ value.compared) ∧ ∀ x ∈ value.doubles, again x = some x := by
  cases value with
  | range bounds =>
    have hbounds := bounds.reread?_eq_self_iff again
    simpa [reread?, compared, doubles] using hbounds
  | list values =>
    have hvalues : (list values).reread? again = some (list values) ↔
        values.mapM (FieldValue.reread? again) = some values := by
      simp [reread?]
    rw [hvalues, List.mapM_eq_some_self_iff]
    simp only [FieldValue.reread?_eq_self_iff, forall_and]
    refine and_congr ?_ List.forall_mem_filterMap.symm
    exact ⟨fun h d hd => h _ hd d rfl, fun h value hvalue d hd => h d (hd ▸ hvalue)⟩
  | scalar value =>
    have hvalue := value.reread?_eq_self_iff again
    simpa [reread?, compared, doubles, eq_comm] using hvalue
  | _ => simp [reread?, doubles, compared]

theorem FilterField.reread?_eq_self_iff (field : FilterField) :
    field.reread? again = some field ↔
      (∀ d, .decimal d ∉ field.compared) ∧ ∀ x ∈ field.doubles, again x = some x := by
  obtain ⟨name, nested, ignored, _ | value⟩ := field
  · simp [reread?, compared, doubles]
  · have hvalue := value.reread?_eq_self_iff again
    simpa [reread?, compared, doubles] using hvalue

end Doubles

/-! Texts -/

theorem FieldValue.depth_toStored (value : FieldValue) : Json.depth value.toStored = 0 := by
  cases value with
  | double x =>
    rw [toStored, Json.ofDouble]
    split <;> rfl
  | _ => rfl

theorem RangeFilter.depth_toStored (bounds : RangeFilter) : Json.depth bounds.toStored = 1 := by
  have hbound (bound : Option Binary64) : Json.depth (.ofOption .ofDouble bound) = 0 := by
    cases bound with
    | none => rfl
    | some x => exact FieldValue.depth_toStored (.double x)
  simp [toStored, Json.depth, Json.depthOfMembers, hbound]

theorem FilterValue.depth_toStored_le (value : FilterValue) : Json.depth value.toStored ≤ 2 := by
  have hflat {elements : List Json} (h : ∀ v ∈ elements, Json.depth v = 0) :
      Json.depthOfElements elements = 0 := by
    induction elements with
    | nil => rfl
    | cons v elements ih =>
      rw [List.forall_mem_cons] at h
      rw [Json.depthOfElements, h.1, ih h.2, Nat.max_self]
  cases value with
  | range bounds => simp [toStored, Json.depth, Json.depthOfMembers, bounds.depth_toStored]
  | text s => simp [toStored, Json.depth, Json.depthOfMembers]
  | strings values =>
    have hvalues : Json.depthOfElements (values.map .str) = 0 :=
      hflat (List.forall_mem_map.mpr fun s _ => (FieldValue.string s).depth_toStored)
    simp [toStored, Json.strings, Json.depth, Json.depthOfMembers, hvalues]
  | list values =>
    have hvalues : Json.depthOfElements (values.map FieldValue.toStored) = 0 :=
      hflat (List.forall_mem_map.mpr fun value _ => value.depth_toStored)
    simp [toStored, Json.depth, Json.depthOfMembers, hvalues]
  | scalar value => simp [toStored, Json.depth, Json.depthOfMembers, value.depth_toStored]

theorem FilterField.depth_toStored_le (field : FilterField) : Json.depth field.toStored ≤ 3 := by
  have hnested : Json.depth (.ofOption .str field.nested) = 0 := by
    cases field.nested <;> rfl
  have hvalue : Json.depth (.ofOption FilterValue.toStored field.value) ≤ 2 := by
    cases field.value with
    | none => exact Nat.zero_le 2
    | some value => exact value.depth_toStored_le
  have hdepth : Json.depth field.toStored =
      Json.depth (.ofOption FilterValue.toStored field.value) + 1 := by
    simp [toStored, Json.depth, Json.depthOfMembers, hnested]
  rw [hdepth]
  exact Nat.succ_le_succ hvalue

/-! Queries -/

theorem FieldValue.toJson_decimal_ne_str (d : Decimal) (s : String) :
    (decimal d).toJson ≠ .str s := by
  have hdouble (x : Binary64) : Json.ofDouble x ≠ .str s := by
    rw [Json.ofDouble]
    split <;> exact nofun
  rw [toJson]
  split
  · split
    · exact nofun
    · exact hdouble _
  · exact hdouble _

/-- A query tells a value from what a stored one is read as exactly if it is a decimal. -/
theorem FieldValue.toJson_restored_iff (value : FieldValue) :
    value.restored.toJson = value.toJson ↔ ∀ d, value ≠ .decimal d := by
  cases value with
  | decimal d =>
    have hne : (decimal d).restored.toJson ≠ (decimal d).toJson :=
      (toJson_decimal_ne_str d d.text).symm
    simpa using hne
  | _ => simp [restored]

theorem FilterValue.leaf_restored_iff (value : FilterValue) (d : Descriptor) :
    value.restored.leaf d = value.leaf d ↔ ∀ decimal, .decimal decimal ∉ value.compared := by
  cases value with
  | list values =>
    have hvalues : (values.map FieldValue.restored).map FieldValue.toJson =
        values.map FieldValue.toJson ↔ ∀ value ∈ values, value.restored.toJson = value.toJson := by
      rw [List.map_map, List.map_inj_left]
      rfl
    simp only [restored, leaf, Query.terms.injEq, true_and, hvalues,
      FieldValue.toJson_restored_iff, compared]
    exact ⟨fun h d hd => h _ hd d rfl, fun h value hvalue d hd => h d (hd ▸ hvalue)⟩
  | scalar value => simpa [restored, leaf, compared, eq_comm] using value.toJson_restored_iff
  | _ => simp [restored, leaf, compared]

theorem FilterField.restored_eq_self_iff (field : FilterField) :
    field.restored = field ↔ ∀ d, .decimal d ∉ field.compared := by
  have hself := field.reread?_eq_self_iff some
  rw [field.reread?_some, Option.some.injEq] at hself
  simpa using hself

def oneProperty (name : String) : TypeTable := [⟨"Order", [⟨name, .string, none⟩]⟩]

theorem build_oneProperty {name : String} (hname : Text.isBlank name = false) :
    DocumentSchema.build (oneProperty name) =
      .ok ⟨"Order", [Schema.describe "Order" none ⟨name, .string, none⟩]⟩ :=
  Schema.build_plain (by decide +kernel) {
    named := List.forall_mem_singleton.mpr hname
    nodup := List.nodup_singleton _
    ordered := List.forall_mem_singleton.mpr fun _ hspec => nomatch hspec
    scalar := List.forall_mem_singleton.mpr rfl }

/-- Where a field asks something, it is compiled to its leaf. -/
theorem DocumentSchema.must_compile_singleton {schema : DocumentSchema} {field : FilterField}
    {value : FilterValue} {d : Descriptor} (hignored : field.ignored = false)
    (hvalue : field.value = some value) (hd : schema.resolve field.lookupName = some d)
    (innerHitsSize : Nat) : (schema.compile innerHitsSize [field]).must = [value.leaf d] := by
  have hresolve : field.resolve? schema = some (d, value.leaf d) := by
    rw [FilterField.resolve?, hignored, hvalue, hd]
    rfl
  rw [compile, List.foldl_cons, List.foldl_nil, hresolve]
  rfl

namespace FilterField

theorem resolve?_of_resolve_eq_none {schema : DocumentSchema} {field : FilterField}
    (h : schema.resolve field.lookupName = none) : field.resolve? schema = none := by
  rw [resolve?, h]
  split
  · rfl
  · cases field.value <;> rfl

/-- A field that resolves alike in a document may be put in place of another. -/
theorem compile_congr {schema : DocumentSchema} {field other : FilterField}
    (h : other.resolve? schema = field.resolve? schema) (innerHitsSize : Nat)
    (before after : List FilterField) :
    schema.compile innerHitsSize (before ++ other :: after) =
      schema.compile innerHitsSize (before ++ field :: after) := by
  simp only [DocumentSchema.compile, List.foldl_append, List.foldl_cons, h]

/-- What a stored field is read as asks the same of all documents exactly if the field asks
nothing of any of them or compares with no decimal. -/
theorem compile_restored_iff (field : FilterField) :
    (∀ table schema, DocumentSchema.build table = .ok schema →
      ∀ innerHitsSize before after,
        schema.compile innerHitsSize (before ++ field.restored :: after) =
          schema.compile innerHitsSize (before ++ field :: after)) ↔
      field.ignored = true ∨ Text.isBlank field.lookupName = true ∨
        ∀ d, .decimal d ∉ field.compared := by
  constructor
  · intro h
    by_cases hasks : field.ignored = true ∨ Text.isBlank field.lookupName = true
    · exact hasks.imp_right .inl
    · simp only [not_or, Bool.not_eq_true] at hasks
      refine .inr (.inr ?_)
      rw [compared]
      cases hvalue : field.value with
      | none => exact fun _ => List.not_mem_nil
      | some value =>
        -- A document with just the property that the field asks about tells the leaves apart.
        have hbuild := build_oneProperty hasks.2
        let d := Schema.describe "Order" none ⟨field.lookupName, .string, none⟩
        have hd : (⟨"Order", [d]⟩ : DocumentSchema).resolve field.lookupName = some d := by
          simp [DocumentSchema.resolve, d, Schema.describe, Schema.joinPath]
        have hignored' : field.restored.ignored = false := hasks.1
        have hvalue' : field.restored.value = some value.restored := by
          rw [restored, hvalue]
          rfl
        have hmust := DocumentSchema.must_compile_singleton hasks.1 hvalue hd 0
        have hmust' := DocumentSchema.must_compile_singleton hignored' hvalue' hd 0
        have hcompiled := congrArg CompiledFilter.must (h _ _ hbuild 0 [] [])
        rw [List.nil_append, List.nil_append, hmust, hmust', List.singleton_inj] at hcompiled
        exact (value.leaf_restored_iff d).mp hcompiled
  · intro h table schema hbuild innerHitsSize before after
    refine compile_congr ?_ innerHitsSize before after
    rcases h with hignored | hblank | hnone
    · have hignored' : field.restored.ignored = true := hignored
      rw [resolve?, resolve?, if_pos hignored, if_pos hignored']
    · have hresolve := DocumentSchema.resolve_of_isBlank hbuild hblank
      have hresolve' : schema.resolve field.restored.lookupName = none := hresolve
      rw [resolve?_of_resolve_eq_none hresolve, resolve?_of_resolve_eq_none hresolve']
    · rw [field.restored_eq_self_iff.mpr hnone]

/-- What becomes of a field that is stored and read again. By itself it is always read, and
from its text if each of its doubles is; it is read as itself if it compares with no decimal
and, in a text, if each of its doubles is read as itself. -/
structure ComesBack (field : FilterField) : Prop where
  read : ofStored? field.toStored = some field.restored
  restored_iff : field.restored = field ↔ ∀ d, .decimal d ∉ field.compared
  compile_iff : (∀ table schema, DocumentSchema.build table = .ok schema →
      ∀ innerHitsSize before after,
        schema.compile innerHitsSize (before ++ field.restored :: after) =
          schema.compile innerHitsSize (before ++ field :: after)) ↔
    field.ignored = true ∨ Text.isBlank field.lookupName = true ∨ ∀ d, .decimal d ∉ field.compared
  readText : (Json.read? field.toStored.compact).bind ofStored? = field.reread? Json.rereadDouble
  isSome_readText_iff : ((Json.read? field.toStored.compact).bind ofStored?).isSome = true ↔
    ∀ x ∈ field.doubles, (Json.read? (Json.double x).compact).isSome = true
  readText_iff : (Json.read? field.toStored.compact).bind ofStored? = some field ↔
    (∀ d, .decimal d ∉ field.compared) ∧
      ∀ x ∈ field.doubles, Json.read? (Json.double x).compact = some (.double x)

theorem IsStorable.isFinite {field : FilterField} (h : field.IsStorable) :
    ∀ x ∈ field.doubles, x.isFinite = true := by
  rw [doubles]
  cases hvalue : field.value with
  | none => exact fun _ hx => absurd hx List.not_mem_nil
  | some value => exact (h value hvalue).doubles

end FilterField

/-- What becomes of every field that the type of filters admits. -/
theorem storable_comesBack (field : FilterField) (h : field.IsStorable) : field.ComesBack := by
  have htext : (Json.read? field.toStored.compact).bind FilterField.ofStored? =
      field.reread? Json.rereadDouble := by
    have hdepth : Json.depth field.toStored ≤ Json.depthLimit :=
      Nat.le_trans field.depth_toStored_le (by decide)
    rw [Json.read?_compact _ hdepth]
    exact FilterField.ofStored?_back Json.keeps_reread h
  exact {
    read := (FilterField.ofStored?_back Json.keeps_some h).trans field.reread?_some
    restored_iff := field.restored_eq_self_iff
    compile_iff := field.compile_restored_iff
    readText := htext
    isSome_readText_iff := by
      rw [htext, field.isSome_reread?_iff]
      refine forall₂_congr fun x hx => ?_
      rw [Json.read?_compact_double (h.isFinite x hx), Option.isSome_map]
    readText_iff := by
      rw [htext, field.reread?_eq_self_iff]
      refine and_congr_right' (forall₂_congr fun x hx => ?_)
      rw [Json.read?_compact_double (h.isFinite x hx)]
      simp }

/-- The double nearest to `3e23`, and the one below it. -/
def large : Binary64 := .finite false 8940696716308594 25

def belowLarge : Binary64 := .finite false 8940696716308593 25

theorem shortest_large : Binary64.shortest .toEven 8940696716308594 25 = ⟨3, 23⟩ := by
  have hsearch : Binary64.search .toEven 8940696716308594 25
      (Binary64.decimalPoint (8940696716308594 * Nat.pow 2 25) 1 3
        (Binary64.floorLog (8940696716308594 * Nat.pow 2 25) 1 * 30103 / 100000)) 1 17 =
      ⟨3, 23⟩ := by
    decide +kernel
  have htrim : Binary64.Scientific.trim ⟨3, 23⟩ = ⟨3, 23⟩ := by
    rw [Binary64.Scientific.trim]
    rfl
  exact (congrArg Binary64.Scientific.trim hsearch).trans htrim

theorem text_large : large.text Binary64.documentLayout = "3e23" := by
  have hlayout : Binary64.documentLayout.tie = .toEven := rfl
  have hwrite : Binary64.documentLayout.write ⟨3, 23⟩ = "3e23" := by decide +kernel
  rw [large, Binary64.text, hlayout, shortest_large, hwrite]
  rfl

/-- The power of ten is rounded before the product is, which gives the double below. -/
theorem rereadDouble_large : Json.rereadDouble large = some belowLarge := by
  have hscale : Json.scale (.ofNat 3) 23 = some belowLarge := by
    rw [Json.scale]
    decide +kernel
  have hnumber : Json.number "3e23".toList =
      (Json.scale (.ofNat 3) 23).map fun x => (.double x, []) := by
    have hmap {found : Option Binary64} :
        (do return ((← found.map Json.double), ([] : List Char))) =
          found.map fun x => (.double x, []) := by
      cases found <;> rfl
    exact hmap
  rw [Json.rereadDouble, text_large, hnumber, hscale]
  rfl

/-- A field that compares a total with a decimal and with a double. -/
def total : FilterField where
  name := "Total"
  value := some (.list [.decimal ⟨1250, 2⟩, .double large])

/-- The decimal comes back as a string, which is not the same to every document, and from a
text the double comes back as the one below it. -/
theorem storable_comesBack_total :
    total.IsStorable ∧ total.restored ≠ total ∧
    FilterField.ofStored? total.toStored =
      some { total with value := some (.list [.string "12.50", .double large]) } ∧
    (Json.read? total.toStored.compact).bind FilterField.ofStored? =
      some { total with value := some (.list [.string "12.50", .double belowLarge]) } ∧
    ¬ ∀ table schema, DocumentSchema.build table = .ok schema → ∀ innerHitsSize before after,
      schema.compile innerHitsSize (before ++ total.restored :: after) =
        schema.compile innerHitsSize (before ++ total :: after) := by
  have hstorable : total.IsStorable := by
    rintro value ⟨⟩
    refine ⟨fun n hn => ?_, fun x hx => ?_⟩
    · simp [FilterValue.compared] at hn
    · obtain rfl : large = x := by
        simpa [FilterValue.doubles, FilterValue.compared, FieldValue.double?] using hx
      rfl
  have hdecimal : ¬ ∀ d, .decimal d ∉ total.compared := fun h => h ⟨1250, 2⟩ List.mem_cons_self
  have hdigits : (⟨1250, 2⟩ : Decimal).text = "12.50" := by decide +kernel
  have hback := storable_comesBack total hstorable
  refine ⟨hstorable, mt hback.restored_iff.mp hdecimal, ?_, ?_, fun h => ?_⟩
  · rw [hback.read]
    simp [FilterField.restored, FilterValue.restored, FieldValue.restored, total, hdigits]
  · rw [hback.readText]
    simp [FilterField.reread?, FilterValue.reread?, FieldValue.reread?, FieldValue.restored,
      total, hdigits, rereadDouble_large]
  · rcases hback.compile_iff.mp h with hignored | hblank | hnone
    · exact nomatch hignored
    · exact absurd hblank (by decide +kernel)
    · exact hdecimal hnone

end SearchStore
