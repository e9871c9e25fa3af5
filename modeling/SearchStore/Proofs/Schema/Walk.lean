import SearchStore.Schema.Walk

/-!
The walk through the types of a document, one type and one property at a time:
what it comes to where nothing is wrong, and what is right where it succeeds.
-/

namespace SearchStore

def PropertySchema.child? (table : TypeTable) (property : PropertySchema) : Option TypeSchema :=
  property.type.element?.bind fun entry => table[entry]?

end SearchStore

namespace SearchStore.Schema

variable {table : TypeTable} {visiting : List String} {path : Option String}

theorem walkType_of_named (type : Unvisited table visiting)
    (hnamed : Text.isBlank type.val.name = false) :
    walkType table visiting path type =
      walkProperties table (type.val.name :: visiting) path type.val.name []
        type.val.properties := by
  rw [walkType]
  simp only [hnamed, Bool.false_eq_true, if_false]

variable {typeName : String} {earlier : List String} {property : PropertySchema}
  {rest : List PropertySchema}

theorem walkProperties_nil :
    walkProperties table visiting path typeName earlier [] = .ok [] := by
  rw [walkProperties]

theorem unvisited_of_getElem? {entry : Nat} {child : TypeSchema}
    (hchild : table[entry]? = some child) (hnew : child.name ∉ visiting) :
    child ∈ table ∧ child.name ∉ visiting := ⟨List.mem_of_getElem? hchild, hnew⟩

def walkBelow (table : TypeTable) (visiting : List String) (path : String)
    (property : PropertySchema) : Except SchemaError (List Descriptor) :=
  match property.type.element? with
  | none => .ok []
  | some entry =>
    match h : table[entry]? with
    | none => .error (.missingTypeName path)
    | some child =>
      if hvisited : child.name ∈ visiting then .ok []
      else walkType table visiting (some path) ⟨child, unvisited_of_getElem? h hvisited⟩

section Below

variable {place : String} {entry : Nat} {child : TypeSchema}

theorem walkBelow_of_none (hscalar : property.type.element? = none) :
    walkBelow table visiting place property = .ok [] := by
  simp only [walkBelow, hscalar]

theorem walkBelow_of_dangling (hobject : property.type.element? = some entry)
    (hdangling : table[entry]? = none) :
    walkBelow table visiting place property = .error (.missingTypeName place) := by
  simp only [walkBelow, hobject]
  split
  · rfl
  · next child hchild => exact absurd (hchild.symm.trans hdangling) (Option.some_ne_none _)

theorem walkBelow_of_child (hobject : property.type.element? = some entry)
    (hchild : table[entry]? = some child) :
    walkBelow table visiting place property =
      if hvisited : child.name ∈ visiting then .ok []
      else walkType table visiting (some place) ⟨child, List.mem_of_getElem? hchild, hvisited⟩ := by
  simp only [walkBelow, hobject]
  split
  · next hnone => exact absurd (hchild.symm.trans hnone) (Option.some_ne_none _)
  · next found hfound =>
    obtain rfl : found = child := Option.some.inj (hfound.symm.trans hchild)
    rfl

end Below

/-- A property is looked at by itself, then what lies under it, then the other properties. -/
theorem walkProperties_cons :
    walkProperties table visiting path typeName earlier (property :: rest) = do
      checkProperty typeName path earlier property
      let below ← walkBelow table visiting (joinPath path property.name) property
      let after ← walkProperties table visiting path typeName (property.name :: earlier) rest
      return describe typeName path property :: below ++ after := by
  rw [walkProperties]
  cases checkProperty typeName path earlier property with
  | error e => rfl
  | ok _ =>
    cases hobject : property.type.element? with
    | none =>
      rw [walkBelow_of_none hobject]
    | some entry =>
      simp only [bind, Except.bind]
      split
      · next hdangling =>
        rw [walkBelow_of_dangling hobject hdangling]
        rfl
      · next child hchild =>
        rw [walkBelow_of_child hobject hchild]
        split <;> rfl

/-- A property that holds no objects is followed by the next one. -/
theorem walkProperties_cons_of_none
    (hcheck : checkProperty typeName path earlier property = .ok ())
    (hscalar : property.type.element? = none) :
    walkProperties table visiting path typeName earlier (property :: rest) =
      (walkProperties table visiting path typeName (property.name :: earlier) rest).map
        (describe typeName path property :: ·) := by
  rw [walkProperties_cons, hcheck, walkBelow_of_none hscalar]
  rfl

/-- Properties with which nothing is wrong and that hold no objects. -/
structure ArePlain (properties : List PropertySchema) : Prop where
  named : ∀ property ∈ properties, Text.isBlank property.name = false
  nodup : (properties.map (·.name)).Nodup
  ordered : ∀ property ∈ properties, ∀ spec ∈ property.aggregate, Text.isBlank spec.order = false
  scalar : ∀ property ∈ properties, property.type.element? = none

theorem checkProperty_of_ordered (hname : Text.isBlank property.name = false)
    (hnew : property.name ∉ earlier)
    (horder : ∀ spec ∈ property.aggregate, Text.isBlank spec.order = false) :
    checkProperty typeName path earlier property = .ok () := by
  have hkey : (property.aggregate.any fun spec => Text.isBlank spec.order) = false := by
    cases hspec : property.aggregate with
    | none => rfl
    | some spec => exact horder spec hspec
  simp [checkProperty, hname, hnew, hkey]

/-- Plain properties are listed as they are declared. -/
theorem walkProperties_of_plain {properties : List PropertySchema} (h : ArePlain properties)
    (hnew : ∀ property ∈ properties, property.name ∉ earlier) :
    walkProperties table visiting path typeName earlier properties =
      .ok (properties.map (describe typeName path)) := by
  induction properties generalizing earlier with
  | nil => exact walkProperties_nil
  | cons property rest ih =>
    obtain ⟨hnames, hnodup, horders, hscalars⟩ := h
    rw [List.forall_mem_cons] at hnames horders hscalars hnew
    rw [List.map_cons, List.nodup_cons] at hnodup
    have hrest : ∀ other ∈ rest, other.name ∉ property.name :: earlier := by
      intro other hother hmem
      rcases List.mem_cons.mp hmem with hsame | hearlier
      · exact hnodup.1 (hsame ▸ List.mem_map_of_mem hother)
      · exact hnew.2 other hother hearlier
    have hcheck : checkProperty typeName path earlier property = .ok () :=
      checkProperty_of_ordered hnames.1 hnew.1 horders.1
    rw [walkProperties_cons_of_none hcheck hscalars.1,
      ih ⟨hnames.2, hnodup.2, horders.2, hscalars.2⟩ hrest]
    rfl

/-- A document of plain properties has these properties. -/
theorem build_plain {name : String} {properties : List PropertySchema}
    (hname : Text.isBlank name = false) (h : ArePlain properties) :
    DocumentSchema.build [⟨name, properties⟩] =
      .ok ⟨name, properties.map (describe name none)⟩ := by
  have hroot : descriptors [⟨name, properties⟩] =
      walkProperties [⟨name, properties⟩] [name] none name [] properties :=
    walkType_of_named _ hname
  rw [DocumentSchema.build, hroot, walkProperties_of_plain h fun _ _ => List.not_mem_nil]
  rfl

/-- A property that holds objects of a type not on the way is followed by all that
lies under it. -/
theorem walkProperties_cons_of_some
    (hcheck : checkProperty typeName path earlier property = .ok ()) {entry : Nat}
    {child : TypeSchema} (hobject : property.type.element? = some entry)
    (hchild : table[entry]? = some child) (hnew : child.name ∉ visiting) :
    walkProperties table visiting path typeName earlier (property :: rest) = do
      let below ← walkType table visiting (some (describe typeName path property).fullPath)
        ⟨child, List.mem_of_getElem? hchild, hnew⟩
      let after ← walkProperties table visiting path typeName (property.name :: earlier) rest
      return describe typeName path property :: below ++ after := by
  rw [walkProperties_cons, hcheck, walkBelow_of_child hobject hchild, dif_neg hnew]
  rfl

/-- A property that holds objects of a type on the way is followed by the next one. -/
theorem walkProperties_cons_of_visited
    (hcheck : checkProperty typeName path earlier property = .ok ()) {entry : Nat}
    {child : TypeSchema} (hobject : property.type.element? = some entry)
    (hchild : table[entry]? = some child) (hvisited : child.name ∈ visiting) :
    walkProperties table visiting path typeName earlier (property :: rest) =
      (walkProperties table visiting path typeName (property.name :: earlier) rest).map
        (describe typeName path property :: ·) := by
  rw [walkProperties_cons, hcheck, walkBelow_of_child hobject hchild, dif_pos hvisited]
  rfl

theorem walkType_eq_ok {type : Unvisited table visiting} {ds : List Descriptor}
    (h : walkType table visiting path type = .ok ds) :
    walkProperties table (type.val.name :: visiting) path type.val.name []
      type.val.properties = .ok ds := by
  rw [walkType] at h
  split at h
  · exact nomatch h
  · exact h

/-- What lies under a property: nothing, if it holds no objects or the type of its
objects is on the way already, or else what the walk finds in this type. -/
inductive Below (table : TypeTable) (visiting : List String) (path : Option String)
    (property : PropertySchema) : List Descriptor → Prop
  | nothing (hvisited : ∀ child, property.child? table = some child → child.name ∈ visiting) :
      Below table visiting path property []
  | entered {child : TypeSchema} {below : List Descriptor} (hmem : child ∈ table)
      (hnew : child.name ∉ visiting) (hchild : property.child? table = some child)
      (hwalk : walkType table visiting path ⟨child, hmem, hnew⟩ = .ok below) :
      Below table visiting path property below

theorem below_of_walkBelow_eq_ok {place : String} {below : List Descriptor}
    (h : walkBelow table visiting place property = .ok below) :
    Below table visiting (some place) property below := by
  cases hobject : property.type.element? with
  | none =>
    rw [walkBelow_of_none hobject] at h
    obtain rfl := Except.ok.inj h
    exact .nothing fun child hchild => by simp [PropertySchema.child?, hobject] at hchild
  | some entry =>
    cases hfound : table[entry]? with
    | none =>
      rw [walkBelow_of_dangling hobject hfound] at h
      cases h
    | some child =>
      have hchild : property.child? table = some child := by
        simp [PropertySchema.child?, hobject, hfound]
      rw [walkBelow_of_child hobject hfound] at h
      split at h
      · next hvisited =>
        obtain rfl := Except.ok.inj h
        refine .nothing fun other hother => ?_
        obtain rfl : child = other := Option.some.inj (hchild.symm.trans hother)
        exact hvisited
      · next hnew => exact .entered (List.mem_of_getElem? hfound) hnew hchild h

/-- Where the walk succeeds, a property is in order, what lies under it follows it,
and then come the other properties. -/
theorem walkProperties_cons_eq_ok {ds : List Descriptor}
    (h : walkProperties table visiting path typeName earlier (property :: rest) = .ok ds) :
    checkProperty typeName path earlier property = .ok () ∧
      ∃ below after, ds = describe typeName path property :: below ++ after ∧
        Below table visiting (some (joinPath path property.name)) property below ∧
        walkProperties table visiting path typeName (property.name :: earlier) rest =
          .ok after := by
  rw [walkProperties_cons] at h
  cases hcheck : checkProperty typeName path earlier property with
  | error e =>
    rw [hcheck] at h
    cases h
  | ok _ =>
    cases hbelow : walkBelow table visiting (joinPath path property.name) property with
    | error e =>
      rw [hcheck, hbelow] at h
      cases h
    | ok below =>
      cases hafter :
          walkProperties table visiting path typeName (property.name :: earlier) rest with
      | error e =>
        rw [hcheck, hbelow, hafter] at h
        cases h
      | ok after =>
        rw [hcheck, hbelow, hafter] at h
        exact ⟨rfl, below, after, (Except.ok.inj h).symm, below_of_walkBelow_eq_ok hbelow, rfl⟩

end SearchStore.Schema
