import SearchStore.Proofs.Schema.Chains
import SearchStore.Request

/-!
Optional layers of types. Numbers, booleans and objects are seen under optional layers at
any depth, and so are strings, except where they are the elements of a list. Two tables
that differ in optional layers only describe properties with the same paths, and all
requests are the same if they agree on lists of optional strings.
-/

namespace SearchStore

namespace ValueType

/-- The type without its optional layers, around lists and in them. -/
def withoutOptional : ValueType → ValueType
  | .optional inner => inner.withoutOptional
  | .list element => .list element.withoutOptional
  | type => type

/-- Whether the type is a list of strings that are optional, and so not seen. -/
def hidesStrings (type : ValueType) : Bool :=
  match type.unwrapped with
  | .list (.optional element) => element.unwrapped = .string
  | _ => false

theorem isNumeric_withoutOptional (type : ValueType) :
    type.withoutOptional.isNumeric = type.isNumeric := by
  induction type with
  | optional inner ih => exact ih
  | _ => rfl

theorem isBoolean_withoutOptional (type : ValueType) :
    type.withoutOptional.isBoolean = type.isBoolean := by
  induction type with
  | optional inner ih => exact ih
  | _ => rfl

theorem element?_withoutOptional (type : ValueType) :
    type.withoutOptional.element? = type.element? := by
  induction type with
  | optional inner ih => exact ih
  | list element ih => exact ih
  | _ => rfl

theorem withoutOptional_eq_string_iff (type : ValueType) :
    type.withoutOptional = .string ↔ type.unwrapped = .string := by
  induction type with
  | optional inner ih => exact ih
  | list element => exact ⟨nofun, nofun⟩
  | _ => rfl

theorem isKeyword_withoutOptional (type : ValueType) :
    type.withoutOptional.isKeyword = (type.isKeyword || type.hidesStrings) := by
  induction type with
  | optional inner ih => exact ih
  | list element =>
    cases element with
    | optional inner => exact decide_eq_decide.mpr (withoutOptional_eq_string_iff inner)
    | _ => rfl
  | _ => rfl

theorem isKeyword_of_hidesStrings (type : ValueType) (h : type.hidesStrings = true) :
    type.isKeyword = false := by
  induction type with
  | optional inner ih => exact ih h
  | list element =>
    cases element with
    | optional inner => rfl
    | _ => exact nomatch h
  | _ => exact nomatch h

/-- Only lists of optional strings are seen otherwise than without their optional layers. -/
theorem isKeyword_withoutOptional_eq_iff (type : ValueType) :
    type.withoutOptional.isKeyword = type.isKeyword ↔ type.hidesStrings = false := by
  rw [isKeyword_withoutOptional]
  cases hhides : type.hidesStrings with
  | false => simp
  | true => simp [isKeyword_of_hidesStrings type hhides]

example : (ValueType.list (.optional .string)).isKeyword = false ∧
    (ValueType.list .string).isKeyword = true := ⟨rfl, rfl⟩

/-- Types that differ in optional layers only are both seen as strings, or both not, if
they agree on whether they hide strings. -/
theorem isKeyword_eq_iff {type other : ValueType}
    (h : type.withoutOptional = other.withoutOptional) :
    type.isKeyword = other.isKeyword ↔ type.hidesStrings = other.hidesStrings := by
  have hseen : (type.isKeyword || type.hidesStrings) = (other.isKeyword || other.hidesStrings) := by
    rw [← isKeyword_withoutOptional, ← isKeyword_withoutOptional, h]
  have hhidden := isKeyword_of_hidesStrings type
  have hhidden' := isKeyword_of_hidesStrings other
  cases htype : type.hidesStrings <;> cases hother : other.hidesStrings <;>
    simp_all

end ValueType

def PropertySchema.withoutOptional (property : PropertySchema) : PropertySchema :=
  { property with type := property.type.withoutOptional }

def TypeSchema.withoutOptional (type : TypeSchema) : TypeSchema :=
  { type with properties := type.properties.map PropertySchema.withoutOptional }

def TypeTable.withoutOptional (table : TypeTable) : TypeTable :=
  table.map TypeSchema.withoutOptional

def Descriptor.withoutOptional (d : Descriptor) : Descriptor :=
  { d with type := d.type.withoutOptional }

def DocumentSchema.withoutOptional (schema : DocumentSchema) : DocumentSchema :=
  { schema with descriptors := schema.descriptors.map Descriptor.withoutOptional }

namespace Schema

variable {table : TypeTable} {visiting : List String}

/-- The walk through a type without optional layers finds what the walk through the type
finds, without optional layers. -/
def WalksAlike (table : TypeTable) (visiting : List String) : Prop :=
  ∀ (type : Unvisited table visiting) (bare : Unvisited table.withoutOptional visiting) path,
    bare.val = type.val.withoutOptional →
      walkType table.withoutOptional visiting path bare =
        (walkType table visiting path type).map (List.map Descriptor.withoutOptional)

theorem walkBelow_withoutOptional (hwalk : WalksAlike table visiting) (place : String)
    (property : PropertySchema) :
    walkBelow table.withoutOptional visiting place property.withoutOptional =
      (walkBelow table visiting place property).map (List.map Descriptor.withoutOptional) := by
  have hbare : property.withoutOptional.type.element? = property.type.element? :=
    property.type.element?_withoutOptional
  cases hobject : property.type.element? with
  | none =>
    rw [walkBelow_of_none hobject, walkBelow_of_none (hbare.trans hobject)]
    rfl
  | some entry =>
    have hentry : table.withoutOptional[entry]? = table[entry]?.map TypeSchema.withoutOptional :=
      List.getElem?_map
    cases hfound : table[entry]? with
    | none =>
      rw [hfound] at hentry
      rw [walkBelow_of_dangling hobject hfound,
        walkBelow_of_dangling (hbare.trans hobject) hentry]
      rfl
    | some child =>
      rw [hfound] at hentry
      rw [walkBelow_of_child hobject hfound, walkBelow_of_child (hbare.trans hobject) hentry]
      by_cases hvisited : child.name ∈ visiting
      · rw [dif_pos (c := child.withoutOptional.name ∈ visiting) hvisited, dif_pos hvisited]
        rfl
      · rw [dif_neg (c := child.withoutOptional.name ∈ visiting) hvisited, dif_neg hvisited]
        exact hwalk _ _ _ rfl

theorem walkProperties_withoutOptional (hwalk : WalksAlike table visiting) (path : Option String)
    (typeName : String) (earlier : List String) (properties : List PropertySchema) :
    walkProperties table.withoutOptional visiting path typeName earlier
        (properties.map PropertySchema.withoutOptional) =
      (walkProperties table visiting path typeName earlier properties).map
        (List.map Descriptor.withoutOptional) := by
  induction properties generalizing earlier with
  | nil =>
    rw [List.map_nil, walkProperties_nil, walkProperties_nil]
    rfl
  | cons property rest ih =>
    have hcheck : checkProperty typeName path earlier property.withoutOptional =
        checkProperty typeName path earlier property := rfl
    have hbelow := walkBelow_withoutOptional hwalk (joinPath path property.name) property
    have hname : property.withoutOptional.name = property.name := rfl
    rw [List.map_cons, walkProperties_cons, walkProperties_cons, hcheck, hname, hbelow, ih]
    cases checkProperty typeName path earlier property with
    | error error => rfl
    | ok _ =>
      cases walkBelow table visiting (joinPath path property.name) property with
      | error error => rfl
      | ok below =>
        cases walkProperties table visiting path typeName (property.name :: earlier) rest with
        | error error => rfl
        | ok after =>
          have hlisted : (describe typeName path property :: below ++ after).map
              Descriptor.withoutOptional =
                describe typeName path property.withoutOptional ::
                  below.map Descriptor.withoutOptional ++ after.map Descriptor.withoutOptional := by
            rw [List.map_append]
            rfl
          exact congrArg Except.ok hlisted.symm

theorem walksAlike (table : TypeTable) (visiting : List String) : WalksAlike table visiting := by
  -- On how many types of the table are not yet on the way.
  induction hn : (unvisited table visiting).length using Nat.strongRecOn
    generalizing visiting with
  | ind n ih =>
    intro type bare path hbare
    have hname : bare.val.name = type.val.name := by
      rw [hbare]
      rfl
    have hproperties :
        bare.val.properties = type.val.properties.map PropertySchema.withoutOptional := by
      rw [hbare]
      rfl
    cases hblank : Text.isBlank type.val.name with
    | true =>
      rw [walkType, walkType, hname, if_pos hblank, if_pos hblank]
      rfl
    | false =>
      have hless := length_unvisited_cons_lt type.property.1 type.property.2
      have hfurther := ih _ (hn ▸ hless) (type.val.name :: visiting) rfl
      rw [walkType_of_named bare (hname ▸ hblank), walkType_of_named type hblank, hname,
        hproperties]
      exact walkProperties_withoutOptional hfurther path _ [] _

theorem descriptors_withoutOptional (table : TypeTable) :
    descriptors table.withoutOptional =
      (descriptors table).map (List.map Descriptor.withoutOptional) := by
  cases table with
  | nil => rfl
  | cons root others => exact walksAlike _ _ _ _ _ rfl

end Schema

open Schema

theorem build_withoutOptional (table : TypeTable) :
    DocumentSchema.build table.withoutOptional =
      (DocumentSchema.build table).map DocumentSchema.withoutOptional := by
  have hname : table.withoutOptional.root.name = table.root.name := by
    cases table <;> rfl
  rw [DocumentSchema.build, DocumentSchema.build, descriptors_withoutOptional, hname]
  cases descriptors table <;> rfl

namespace Descriptor

/-- What requests read of a property: all but its optional layers, and whether it is seen
as strings. -/
def asked (d : Descriptor) : Descriptor × Bool := (d.withoutOptional, d.type.isKeyword)

section Asked

variable {d e : Descriptor} (h : d.asked = e.asked)

include h

theorem wireName_congr : d.wireName = e.wireName :=
  congrArg (·.1.wireName) h

theorem isAggregateTarget_congr : d.isAggregateTarget = e.isAggregateTarget :=
  congrArg (·.1.isAggregateTarget) h

theorem wireNestedPath_congr : d.wireNestedPath = e.wireNestedPath :=
  congrArg (·.1.wireNestedPath) h

theorem exactField_congr : d.exactField = e.exactField :=
  congrArg (fun asked => if asked.2 then Naming.keywordField asked.1.wireName
    else asked.1.wireName) h

theorem leaf_congr (value : FilterValue) : value.leaf d = value.leaf e := by
  cases value <;> simp only [FilterValue.leaf, exactField_congr h, wireName_congr h]

theorem add_congr (innerHitsSize : Nat) (compiled : CompiledFilter) (leaf : Query) :
    compiled.add innerHitsSize d leaf = compiled.add innerHitsSize e leaf := by
  rw [CompiledFilter.add, CompiledFilter.add, wireNestedPath_congr h]

theorem aggregations_congr (compiled : CompiledFilter) :
    d.aggregations compiled = e.aggregations compiled := by
  have hnumeric : d.type.isNumeric = e.type.isNumeric := by
    rw [← d.type.isNumeric_withoutOptional, ← e.type.isNumeric_withoutOptional]
    exact congrArg (·.1.type.isNumeric) h
  have hboolean : d.type.isBoolean = e.type.isBoolean := by
    rw [← d.type.isBoolean_withoutOptional, ← e.type.isBoolean_withoutOptional]
    exact congrArg (·.1.type.isBoolean) h
  have hname : d.name = e.name := congrArg (·.1.name) h
  have horder : d.order = e.order := congrArg (·.1.order) h
  simp only [Descriptor.aggregations, wireName_congr h, wireNestedPath_congr h,
    exactField_congr h, hnumeric, hboolean, hname, horder]

end Asked

end Descriptor

open Descriptor

namespace DocumentSchema

variable {schema other : DocumentSchema}

structure AskedAlike (schema other : DocumentSchema) : Prop where
  compile : ∀ innerHitsSize filter,
    schema.compile innerHitsSize filter = other.compile innerHitsSize filter
  sort : ∀ innerHitsSize paging, (RequestBuilder.mk schema innerHitsSize).sort paging =
    (RequestBuilder.mk other innerHitsSize).sort paging
  aggregations : ∀ compiled, schema.aggregations compiled = other.aggregations compiled

section Lookup

variable (h : schema.descriptors.map Descriptor.asked = other.descriptors.map Descriptor.asked)

include h

/-- Lookups that do not read the types find properties of which requests read the same. -/
theorem find?_congr (p : Descriptor → Bool) (hp : ∀ d, p d.withoutOptional = p d) :
    (schema.descriptors.find? p).map Descriptor.asked =
      (other.descriptors.find? p).map Descriptor.asked := by
  have hasked (ds : List Descriptor) : (ds.find? p).map Descriptor.asked =
      (ds.map Descriptor.asked).find? fun asked => p asked.1 := by
    rw [List.find?_map]
    exact congrArg (fun q => (ds.find? q).map Descriptor.asked) (funext fun d => (hp d).symm)
  rw [hasked, hasked, h]

theorem resolve_congr (name : String) : (schema.resolve name).map Descriptor.asked =
    (other.resolve name).map Descriptor.asked := by
  rw [resolve, resolve, Option.map_or, Option.map_or, find?_congr h _ fun _ => rfl,
    find?_congr h _ fun _ => rfl]

theorem resolveSort_congr (path : String) : (schema.resolveSort path).map Descriptor.asked =
    (other.resolveSort path).map Descriptor.asked :=
  find?_congr h _ fun _ => rfl

theorem compile_congr (innerHitsSize : Nat) (filter : List FilterField) :
    schema.compile innerHitsSize filter = other.compile innerHitsSize filter := by
  unfold compile
  congr 1
  funext compiled field
  unfold FilterField.resolve?
  cases field.ignored with
  | true => rfl
  | false =>
    cases field.value with
    | none => rfl
    | some value =>
      obtain ⟨hnone, hnone'⟩ | ⟨d, e, hd, he, hasked⟩ :=
        Option.eq_none_or_exists_of_map_eq (resolve_congr h field.lookupName)
      · simp only [hnone, hnone', bind, Option.bind]
      · simp only [hd, he, bind, Option.bind, pure, Bool.false_eq_true, if_false,
          leaf_congr hasked, add_congr hasked]

theorem sort_congr (innerHitsSize : Nat) (paging : Paging) :
    (RequestBuilder.mk schema innerHitsSize).sort paging =
      (RequestBuilder.mk other innerHitsSize).sort paging := by
  unfold RequestBuilder.sort
  cases paging.sortBy.filter (· ≠ "") with
  | none => rfl
  | some path =>
    obtain ⟨hnone, hnone'⟩ | ⟨d, e, hd, he, hasked⟩ :=
      Option.eq_none_or_exists_of_map_eq (resolveSort_congr h path)
    · simp only [hnone, hnone', bind, Option.bind]
    · simp only [hd, he, bind, Option.bind, pure, wireNestedPath_congr hasked,
        exactField_congr hasked]

theorem aggregations_congr (compiled : CompiledFilter) :
    schema.aggregations compiled = other.aggregations compiled := by
  unfold aggregations aggregateTargets
  generalize schema.descriptors = ds, other.descriptors = es at h
  induction List.map_eq_map_iff_forall₂.mp h with
  | nil => rfl
  | cons hasked _ ih =>
    rw [List.filter_cons, List.filter_cons, isAggregateTarget_congr hasked]
    split
    · rw [List.flatMap_cons, List.flatMap_cons, ih (List.cons.inj h).2,
        Descriptor.aggregations_congr hasked]
    · exact ih (List.cons.inj h).2

theorem askedAlike_of_asked : schema.AskedAlike other where
  compile := compile_congr h
  sort := sort_congr h
  aggregations := aggregations_congr h

end Lookup

end DocumentSchema

/-- Two properties that differ at most in optional layers of their type. Their fields for
exact matches are the same if both hide strings, or neither. -/
structure Descriptor.SameButOptional (d e : Descriptor) : Prop where
  withoutOptional : d.withoutOptional = e.withoutOptional
  wireName : d.wireName = e.wireName
  wireNestedPath : d.wireNestedPath = e.wireNestedPath
  exactField : d.exactField = e.exactField ↔ d.type.hidesStrings = e.type.hidesStrings

theorem Descriptor.exactField_eq_iff {d e : Descriptor} (h : d.wireName = e.wireName) :
    d.exactField = e.exactField ↔ d.type.isKeyword = e.type.isKeyword := by
  have hlonger (field : String) : Naming.keywordField field ≠ field := by
    intro hsame
    have hlength := congrArg String.length hsame
    rw [Naming.keywordField, String.length_append] at hlength
    have hkeyword : (".keyword" : String).length = 8 := rfl
    omega
  unfold exactField
  rw [h]
  cases d.type.isKeyword <;> cases e.type.isKeyword <;> simp [hlonger, (hlonger _).symm]

theorem Descriptor.sameButOptional {d e : Descriptor} (h : d.withoutOptional = e.withoutOptional) :
    d.SameButOptional e where
  withoutOptional := h
  wireName := (congrArg wireName h :)
  wireNestedPath := (congrArg wireNestedPath h :)
  exactField := by
    have hwire : d.wireName = e.wireName := (congrArg wireName h :)
    rw [exactField_eq_iff hwire]
    exact ValueType.isKeyword_eq_iff (congrArg type h)

/-- Optional layers are not seen, but for those around the strings of a list. Tables that
differ in nothing else are both refused with the same error or describe the same
properties, and if they agree on the lists that hide strings all requests are the same. -/
theorem optional_layers_unseen (first second : TypeTable)
    (h : first.withoutOptional = second.withoutOptional) :
    (∀ type : ValueType, type.withoutOptional.isNumeric = type.isNumeric ∧
      type.withoutOptional.isBoolean = type.isBoolean ∧
      type.withoutOptional.element? = type.element? ∧
      (type.withoutOptional.isKeyword = type.isKeyword ↔ type.hidesStrings = false)) ∧
    (∀ error, DocumentSchema.build first = .error error ↔
      DocumentSchema.build second = .error error) ∧
    ∀ schema other, DocumentSchema.build first = .ok schema →
      DocumentSchema.build second = .ok other →
        schema.typeName = other.typeName ∧
        List.Forall₂ Descriptor.SameButOptional schema.descriptors other.descriptors ∧
        (List.Forall₂ (fun d e => d.type.hidesStrings = e.type.hidesStrings)
          schema.descriptors other.descriptors → schema.AskedAlike other) := by
  have hbuilds : (DocumentSchema.build first).map DocumentSchema.withoutOptional =
      (DocumentSchema.build second).map DocumentSchema.withoutOptional := by
    rw [← build_withoutOptional, ← build_withoutOptional, h]
  refine ⟨fun type => ⟨type.isNumeric_withoutOptional, type.isBoolean_withoutOptional,
    type.element?_withoutOptional, type.isKeyword_withoutOptional_eq_iff⟩,
    fun error => Except.eq_error_iff_of_map_eq hbuilds, ?_⟩
  intro schema other hfirst hsecond
  rw [hfirst, hsecond] at hbuilds
  have hsame : schema.withoutOptional = other.withoutOptional := Except.ok.inj hbuilds
  have hds : List.Forall₂ (fun d e => d.withoutOptional = e.withoutOptional)
      schema.descriptors other.descriptors :=
    List.map_eq_map_iff_forall₂.mp (congrArg DocumentSchema.descriptors hsame)
  refine ⟨(congrArg DocumentSchema.typeName hsame :), hds.imp fun _ _ => sameButOptional,
    fun hhides => ?_⟩
  have hasked : List.Forall₂ (fun d e : Descriptor => d.asked = e.asked)
      schema.descriptors other.descriptors := by
    refine List.Forall₂.mp (fun d e hsame hhides => ?_) hds hhides
    have hkeyword := (ValueType.isKeyword_eq_iff (congrArg Descriptor.type hsame)).mpr hhides
    exact Prod.ext hsame hkeyword
  exact DocumentSchema.askedAlike_of_asked (List.map_eq_map_iff_forall₂.mpr hasked)

def tagged (tags total : ValueType) : TypeTable :=
  [⟨"Order", [⟨"Tags", tags, none⟩, ⟨"Total", total, none⟩]⟩]

theorem build_tagged (tags total : ValueType) (htags : tags.element? = none)
    (htotal : total.element? = none) :
    DocumentSchema.build (tagged tags total) = .ok ⟨"Order",
      [describe "Order" none ⟨"Tags", tags, none⟩,
        describe "Order" none ⟨"Total", total, none⟩]⟩ := by
  have hnames : Text.isBlank "Tags" = false ∧ Text.isBlank "Total" = false := by decide +kernel
  refine build_plain (by decide +kernel) ⟨?_, by simp, ?_, ?_⟩
  · exact List.forall_mem_cons.mpr ⟨hnames.1, List.forall_mem_singleton.mpr hnames.2⟩
  · simp
  · exact List.forall_mem_cons.mpr ⟨htags, List.forall_mem_singleton.mpr htotal⟩

/-- How often the tags of a list are optional makes no difference. -/
theorem optional_layers_unseen_tagged :
    ∃ schema other,
      DocumentSchema.build (tagged (.list (.optional .string)) (.optional .decimal)) =
        .ok schema ∧
      DocumentSchema.build (tagged (.list (.optional (.optional .string))) .decimal) =
        .ok other ∧
      schema.AskedAlike other := by
  have hfirst := build_tagged (.list (.optional .string)) (.optional .decimal) rfl rfl
  have hsecond := build_tagged (.list (.optional (.optional .string))) .decimal rfl rfl
  obtain ⟨-, -, hschemas⟩ := optional_layers_unseen
    (tagged (.list (.optional .string)) (.optional .decimal))
    (tagged (.list (.optional (.optional .string))) .decimal) rfl
  obtain ⟨-, -, halike⟩ := hschemas _ _ hfirst hsecond
  exact ⟨_, _, hfirst, hsecond, halike (.cons rfl (.cons rfl .nil))⟩

end SearchStore
