import SearchStore.Proofs.Containers
import SearchStore.Proofs.Schema.Walk

/-!
The properties of a document, described without the walk. A property is reached by a
chain: each of its properties is declared by the type of objects that the one before
it holds, and no type comes up twice. The walk lists every such chain once, a chain
before those that go on from it and before those that turn off later in the order of
declaration. Chains are told apart by the places of their properties, so this is the
lexicographic order of places.
-/

namespace SearchStore.Schema

/-- The objects of a type that a declared type holds, under optional and list layers. -/
inductive Holds (table : TypeTable) (child : TypeSchema) : ValueType → Prop
  | object {entry : Nat} (hentry : table[entry]? = some child) : Holds table child (.object entry)
  | optional {inner : ValueType} (hinner : Holds table child inner) :
      Holds table child (.optional inner)
  | list {element : ValueType} (helement : Holds table child element) :
      Holds table child (.list element)

theorem holds_iff {table : TypeTable} {child : TypeSchema} {type : ValueType} :
    Holds table child type ↔ (type.element?.bind fun entry => table[entry]?) = some child := by
  constructor
  · intro h
    induction h with
    | object hentry => exact hentry
    | optional hinner ih => exact ih
    | list helement ih => exact ih
  · intro h
    induction type with
    | optional inner ih => exact .optional (ih h)
    | list element ih => exact .list (ih h)
    | object entry => exact .object h
    | _ => exact nomatch h

/-- A property on the way from the document, with the type that declares it and its
place among the properties of this type. -/
structure Step where
  type : TypeSchema
  place : Nat
  property : PropertySchema
deriving DecidableEq, Repr

abbrev Chain := List Step

namespace Chain

def places (chain : Chain) : List Nat := chain.map Step.place

def typeNames (chain : Chain) : List String := chain.map (·.type.name)

def path (chain : Chain) : String := ".".intercalate (chain.map (·.property.name))

/-- A chain of properties from a type: each is declared by the type at its place, and
is followed, if at all, by a property of the type of objects that it holds. -/
inductive Declared (table : TypeTable) : TypeSchema → Chain → Prop
  | last {type : TypeSchema} {place : Nat} {property : PropertySchema}
      (hplace : type.properties[place]? = some property) :
      Declared table type [⟨type, place, property⟩]
  | next {type child : TypeSchema} {place : Nat} {property : PropertySchema} {rest : Chain}
      (hplace : type.properties[place]? = some property)
      (hchild : Holds table child property.type) (hrest : Declared table child rest) :
      Declared table type (⟨type, place, property⟩ :: rest)

/-- What a chain says of its last property: where it is, what it was declared as, and
how it is to be aggregated. -/
structure Describes (earlier : Chain) (last : Step) (d : Descriptor) : Prop where
  fullPath : d.fullPath = path (earlier ++ [last])
  nestedPath : d.nestedPath = if earlier = [] then none else some (path earlier)
  declaringType : d.declaringType = last.type.name
  name : d.name = last.property.name
  type : d.type = last.property.type
  isAggregateTarget : d.isAggregateTarget = last.property.aggregate.isSome
  groupBy : d.groupBy = (last.property.aggregate.bind (·.groupBy)).map Naming.camelPath
  order : d.order = last.property.aggregate.map (Naming.camelPath ·.order)

variable {table : TypeTable} {visiting : List String} {type child : TypeSchema} {rest : Chain}

theorem declared_cons_iff {step : Step} :
    Declared table type (step :: rest) ↔
      step.type = type ∧ type.properties[step.place]? = some step.property ∧
        (rest = [] ∨ ∃ child, Holds table child step.property.type ∧
          Declared table child rest) := by
  constructor
  · intro h
    cases h with
    | last hplace => exact ⟨rfl, hplace, .inl rfl⟩
    | next hplace hchild hrest => exact ⟨rfl, hplace, .inr ⟨_, hchild, hrest⟩⟩
  · rintro ⟨rfl, hplace, rfl | ⟨child, hchild, hrest⟩⟩
    · exact .last hplace
    · exact .next hplace hchild hrest

theorem Declared.exists_cons {chain : Chain} (h : Declared table type chain) :
    ∃ place property rest, chain = ⟨type, place, property⟩ :: rest := by
  cases h with
  | last hplace => exact ⟨_, _, [], rfl⟩
  | next hplace hchild hrest => exact ⟨_, _, _, rfl⟩

/-- A chain that does not come back to types already visited, nor to a type of its own. -/
def Fresh (visiting : List String) (chain : Chain) : Prop :=
  chain.typeNames.Nodup ∧ chain.typeNames.Disjoint visiting

theorem fresh_nil : Fresh visiting [] := by simp [Fresh, typeNames]

theorem fresh_cons_iff {step : Step} :
    Fresh visiting (step :: rest) ↔
      step.type.name ∉ visiting ∧ Fresh (step.type.name :: visiting) rest := by
  simp only [Fresh, typeNames, List.map_cons, List.nodup_cons, List.disjoint_cons_left,
    List.disjoint_cons_right]
  tauto

/-- The path of the object that a chain leads into, under the path at which it starts. -/
def pathFrom (path : Option String) (chain : Chain) : Option String :=
  chain.foldl (fun path step => some (joinPath path step.property.name)) path

theorem pathFrom_some (start : String) (chain : Chain) :
    pathFrom (some start) chain =
      some (".".intercalate (start :: chain.map (·.property.name))) := by
  induction chain generalizing start with
  | nil => simp [pathFrom]
  | cons step rest ih =>
    have hstep : pathFrom (some start) (step :: rest) =
        pathFrom (some (start ++ "." ++ step.property.name)) rest := rfl
    rw [hstep, ih, List.map_cons, String.intercalate_cons_cons]
    cases rest.map (·.property.name) with
    | nil => simp
    | cons name names => simp [String.intercalate_cons_cons, String.append_assoc]

theorem pathFrom_none (chain : Chain) :
    pathFrom none chain = if chain = [] then none else some chain.path := by
  cases chain with
  | nil => rfl
  | cons step rest => exact pathFrom_some step.property.name rest

theorem describes_describe (earlier : Chain) (last : Step) :
    Describes earlier last (describe last.type.name (pathFrom none earlier) last.property) where
  fullPath := by
    have hpath : pathFrom none (earlier ++ [last]) =
        some (joinPath (pathFrom none earlier) last.property.name) := by
      rw [pathFrom, List.foldl_append]
      rfl
    rw [pathFrom_none (earlier ++ [last]), if_neg (by simp)] at hpath
    exact (Option.some.inj hpath).symm
  nestedPath := pathFrom_none earlier
  declaringType := rfl
  name := rfl
  type := rfl
  isAggregateTarget := rfl
  groupBy := by
    simp only [describe]
    cases last.property.aggregate <;> rfl
  order := rfl

def Leads (path : Option String) (chain : Chain) (d : Descriptor) : Prop :=
  ∃ earlier last, chain = earlier ++ [last] ∧
    d = describe last.type.name (pathFrom path earlier) last.property

theorem Leads.cons {path : Option String} {step : Step} {d : Descriptor}
    (h : Leads (some (joinPath path step.property.name)) rest d) :
    Leads path (step :: rest) d := by
  obtain ⟨earlier, last, rfl, rfl⟩ := h
  exact ⟨step :: earlier, last, rfl, rfl⟩

/-- Chains and descriptors of all that is reached from a type through its properties
from a place on, where the types named in `visiting` are not entered. -/
structure Listing (table : TypeTable) (visiting : List String) (path : Option String)
    (type : TypeSchema) (first : Nat) (chains : List Chain) (ds : List Descriptor) : Prop where
  mem_iff : ∀ chain, chain ∈ chains ↔ ∃ step rest, chain = step :: rest ∧
    Declared table type (step :: rest) ∧ first ≤ step.place ∧ Fresh visiting rest
  ordered : chains.Pairwise fun chain later => chain.places < later.places
  leads : List.Forall₂ (Leads path) chains ds

namespace Listing

variable {path : Option String} {first : Nat} {chains : List Chain} {ds : List Descriptor}

/-- Beyond the last property there is nothing. -/
theorem nil (h : type.properties.length ≤ first) :
    Listing table visiting path type first [] [] where
  mem_iff chain := by
    simp only [List.not_mem_nil, false_iff]
    rintro ⟨step, rest, -, hdeclared, hfirst, -⟩
    obtain ⟨-, hplace, -⟩ := declared_cons_iff.mp hdeclared
    obtain ⟨hlt, -⟩ := List.getElem?_eq_some_iff.mp hplace
    omega
  ordered := .nil
  leads := .nil

variable {property : PropertySchema} {after : List Chain} {dsAfter : List Descriptor}

/-- The first property, all chains that go on from it, and then the others. -/
theorem cons (hplace : type.properties[first]? = some property) {below : List Chain}
    {dsBelow : List Descriptor}
    (hbelow : ∀ chain, chain ∈ below ↔ Fresh visiting chain ∧
      ∃ child, Holds table child property.type ∧ Declared table child chain)
    (hordered : below.Pairwise fun chain later => chain.places < later.places)
    (hleads : List.Forall₂ (Leads (some (joinPath path property.name))) below dsBelow)
    (hafter : Listing table visiting path type (first + 1) after dsAfter) :
    Listing table visiting path type first
      ([⟨type, first, property⟩] :: below.map (⟨type, first, property⟩ :: ·) ++ after)
      (describe type.name path property :: dsBelow ++ dsAfter) where
  mem_iff chain := by
    simp only [List.mem_append, List.mem_cons, List.mem_map, hafter.mem_iff, hbelow]
    constructor
    · rintro ((rfl | ⟨rest, ⟨hfresh, child, hchild, hrest⟩, rfl⟩) |
        ⟨step, rest, rfl, hdeclared, hlater, hfresh⟩)
      · exact ⟨_, _, rfl, .last hplace, Nat.le_refl _, fresh_nil⟩
      · exact ⟨_, _, rfl, .next hplace hchild hrest, Nat.le_refl _, hfresh⟩
      · exact ⟨step, rest, rfl, hdeclared, by omega, hfresh⟩
    · rintro ⟨step, rest, rfl, hdeclared, hfirst, hfresh⟩
      by_cases hhere : step.place = first
      · obtain ⟨htype, hproperty, hend⟩ := declared_cons_iff.mp hdeclared
        obtain ⟨type', place', property'⟩ := step
        simp only at htype hhere hproperty hend
        subst htype hhere
        obtain rfl : property' = property := Option.some.inj (hproperty.symm.trans hplace)
        rcases hend with rfl | hend
        · exact .inl (.inl rfl)
        · exact .inl (.inr ⟨rest, ⟨hfresh, hend⟩, rfl⟩)
      · exact .inr ⟨step, rest, rfl, hdeclared, by omega, hfresh⟩
  ordered := by
    have hgoesOn : ∀ rest ∈ below, [] < Chain.places rest := by
      intro rest hrest
      obtain ⟨-, child, -, hdeclared⟩ := (hbelow rest).mp hrest
      obtain ⟨_, _, _, rfl⟩ := hdeclared.exists_cons
      exact List.nil_lt_cons _ _
    have hturnsOff (rest : Chain) : ∀ chain ∈ after,
        Chain.places (⟨type, first, property⟩ :: rest) < chain.places := by
      intro chain hchain
      obtain ⟨step, others, rfl, -, hlater, -⟩ := (hafter.mem_iff chain).mp hchain
      exact List.cons_lt_cons_iff.mpr (.inl hlater)
    rw [List.cons_append, List.pairwise_cons, List.pairwise_append, List.pairwise_map]
    refine ⟨?_, ?_, hafter.ordered, ?_⟩
    · intro chain hchain
      rcases List.mem_append.mp hchain with hmapped | hchain
      · obtain ⟨rest, hrest, rfl⟩ := List.mem_map.mp hmapped
        exact List.cons_lt_cons_iff.mpr (.inr ⟨rfl, hgoesOn rest hrest⟩)
      · exact hturnsOff [] chain hchain
    · exact hordered.imp fun h => List.cons_lt_cons_iff.mpr (.inr ⟨rfl, h⟩)
    · intro chain hmapped later hlater
      obtain ⟨rest, -, rfl⟩ := List.mem_map.mp hmapped
      exact hturnsOff rest later hlater
  leads := by
    refine .cons ⟨[], _, rfl, rfl⟩ (List.rel_append ?_ hafter.leads)
    rw [List.forall₂_map_left_iff]
    exact hleads.imp fun _ _ h => h.cons

end Listing

/-- What lies under a property is listed by the chains from the type of its objects. -/
theorem exists_below {path : Option String} {property : PropertySchema} {ds : List Descriptor}
    (hwalk : ∀ child : Unvisited table visiting, ∀ path ds,
      walkType table visiting path child = .ok ds →
        ∃ chains, Listing table (child.val.name :: visiting) path child.val 0 chains ds)
    (h : Below table visiting path property ds) :
    ∃ below : List Chain, (∀ chain, chain ∈ below ↔ Fresh visiting chain ∧
        ∃ child, Holds table child property.type ∧ Declared table child chain) ∧
      below.Pairwise (fun chain later => chain.places < later.places) ∧
      List.Forall₂ (Leads path) below ds := by
  cases h with
  | nothing hvisited =>
    refine ⟨[], fun chain => ?_, .nil, .nil⟩
    simp only [List.not_mem_nil, false_iff]
    rintro ⟨hfresh, child, hchild, hdeclared⟩
    obtain ⟨_, _, _, rfl⟩ := hdeclared.exists_cons
    exact (fresh_cons_iff.mp hfresh).1 (hvisited child (holds_iff.mp hchild))
  | @entered child _ hmem hnew hchild hbelow =>
    obtain ⟨chains, hlisting⟩ := hwalk ⟨child, hmem, hnew⟩ path ds hbelow
    refine ⟨chains, fun chain => ?_, hlisting.ordered, hlisting.leads⟩
    rw [hlisting.mem_iff]
    constructor
    · rintro ⟨step, rest, rfl, hdeclared, -, hfresh⟩
      obtain ⟨htype, -, -⟩ := declared_cons_iff.mp hdeclared
      rw [fresh_cons_iff, htype]
      exact ⟨⟨hnew, hfresh⟩, child, holds_iff.mpr hchild, hdeclared⟩
    · rintro ⟨hfresh, other, hother, hdeclared⟩
      obtain rfl : child = other := Option.some.inj (hchild.symm.trans (holds_iff.mp hother))
      obtain ⟨_, _, _, rfl⟩ := hdeclared.exists_cons
      exact ⟨_, _, rfl, hdeclared, Nat.zero_le _, (fresh_cons_iff.mp hfresh).2⟩

/-- The properties of a type from a place on, if those of types not yet visited are
listed. -/
theorem exists_listing_properties {path : Option String} {earlier : List String}
    (hwalk : ∀ child : Unvisited table visiting, ∀ path ds,
      walkType table visiting path child = .ok ds →
        ∃ chains, Listing table (child.val.name :: visiting) path child.val 0 chains ds)
    (properties : List PropertySchema) (first : Nat)
    (hproperties : type.properties.drop first = properties) {ds : List Descriptor}
    (h : walkProperties table visiting path type.name earlier properties = .ok ds) :
    ∃ chains, Listing table visiting path type first chains ds := by
  induction properties generalizing first earlier ds with
  | nil =>
    rw [walkProperties_nil] at h
    obtain rfl := Except.ok.inj h
    exact ⟨[], .nil (List.drop_eq_nil_iff.mp hproperties)⟩
  | cons property rest ih =>
    obtain ⟨-, dsBelow, dsAfter, rfl, hbelow, hafter⟩ := walkProperties_cons_eq_ok h
    have hplace : type.properties[first]? = some property := by
      rw [← List.head?_drop, hproperties, List.head?_cons]
    have hrest : type.properties.drop (first + 1) = rest := by
      rw [← List.tail_drop, hproperties, List.tail_cons]
    obtain ⟨below, hmem, hordered, hleads⟩ := exists_below hwalk hbelow
    obtain ⟨after, hlisting⟩ := ih (first + 1) hrest hafter
    exact ⟨_, .cons hplace hmem hordered hleads hlisting⟩

/-- The walk through a type lists the chains from it. -/
theorem exists_listing_walkType (visiting : List String) (child : Unvisited table visiting)
    (path : Option String) (ds : List Descriptor)
    (h : walkType table visiting path child = .ok ds) :
    ∃ chains, Listing table (child.val.name :: visiting) path child.val 0 chains ds := by
  -- On how many types of the table are not yet on the way.
  induction hn : (unvisited table visiting).length using Nat.strongRecOn
    generalizing visiting path ds with
  | ind n ih =>
    refine exists_listing_properties ?_ child.val.properties 0 List.drop_zero (walkType_eq_ok h)
    intro next path ds hnext
    have hless := length_unvisited_cons_lt child.property.1 child.property.2
    exact ih _ (hn ▸ hless) _ next path ds hnext rfl

/-- A chain goes on with the properties of the type of objects that it ends in. -/
theorem declared_concat {earlier : Chain} {last : Step} {place : Nat} {property : PropertySchema}
    (h : Declared table type (earlier ++ [last])) (hchild : Holds table child last.property.type)
    (hplace : child.properties[place]? = some property) :
    Declared table type (earlier ++ [last] ++ [⟨child, place, property⟩]) := by
  induction earlier generalizing type with
  | nil =>
    obtain ⟨htype, hlast, -⟩ := declared_cons_iff.mp h
    exact declared_cons_iff.mpr ⟨htype, hlast, .inr ⟨child, hchild, .last hplace⟩⟩
  | cons step rest ih =>
    obtain ⟨htype, hstep, hnil | ⟨next, hnext, hrest⟩⟩ := declared_cons_iff.mp h
    · simp at hnil
    · exact declared_cons_iff.mpr ⟨htype, hstep, .inr ⟨next, hnext, ih hrest⟩⟩

/-- The chains that the walk from the document lists, in their order. -/
theorem exists_listing_build {schema : DocumentSchema}
    (h : DocumentSchema.build table = .ok schema) :
    ∃ chains : List Chain,
      (∀ chain, chain ∈ chains ↔ Declared table table.root chain ∧ chain.typeNames.Nodup) ∧
      chains.Pairwise (fun chain later => chain.places < later.places) ∧
      List.Forall₂ (Leads none) chains schema.descriptors := by
  cases table with
  | nil => exact nomatch h
  | cons root others =>
    unfold DocumentSchema.build at h
    cases hwalk : descriptors (root :: others) with
    | error e =>
      rw [hwalk] at h
      exact nomatch h
    | ok ds =>
      rw [hwalk] at h
      obtain rfl := Except.ok.inj h
      obtain ⟨chains, hlisting⟩ := exists_listing_walkType [] _ none ds hwalk
      refine ⟨chains, fun chain => ?_, hlisting.ordered, hlisting.leads⟩
      rw [hlisting.mem_iff]
      constructor
      · rintro ⟨step, rest, rfl, hdeclared, -, hfresh⟩
        obtain ⟨htype, -, -⟩ := declared_cons_iff.mp hdeclared
        have hwhole : Fresh [] (step :: rest) :=
          fresh_cons_iff.mpr ⟨List.not_mem_nil, htype ▸ hfresh⟩
        exact ⟨hdeclared, hwhole.1⟩
      · rintro ⟨hdeclared, hnodup⟩
        obtain ⟨_, _, _, rfl⟩ := hdeclared.exists_cons
        have hwhole : Fresh [] _ := ⟨hnodup, List.disjoint_nil_right _⟩
        exact ⟨_, _, rfl, hdeclared, Nat.zero_le _, (fresh_cons_iff.mp hwhole).2⟩

end Chain

end SearchStore.Schema

namespace SearchStore

open Schema

/-- The properties of a document are exactly the ends of the chains of properties from
its type on which no type comes up twice. Each chain is listed once, before those that
go on from it and before those that turn off later. A property of objects is followed by
the properties of their type, however often the type is reached, unless the type is on
the chain already. -/
theorem build_lists_chains (table : TypeTable) (schema : DocumentSchema)
    (h : DocumentSchema.build table = .ok schema) :
    ∃ chains : List Chain,
      (∀ chain, chain ∈ chains ↔
        Chain.Declared table table.root chain ∧ chain.typeNames.Nodup) ∧
      chains.Nodup ∧
      chains.Pairwise (fun chain later => chain.places < later.places) ∧
      List.Forall₂ (fun chain d => ∃ earlier last, chain = earlier ++ [last] ∧
        Chain.Describes earlier last d) chains schema.descriptors ∧
      ∀ earlier last child place property, earlier ++ [last] ∈ chains →
        Holds table child last.property.type → child.properties[place]? = some property →
        (earlier ++ [last] ++ [⟨child, place, property⟩] ∈ chains ↔
          child.name ∉ Chain.typeNames (earlier ++ [last])) := by
  obtain ⟨chains, hmem, hordered, hleads⟩ := Chain.exists_listing_build h
  refine ⟨chains, hmem, ?_, hordered, ?_, ?_⟩
  · refine hordered.imp ?_
    rintro chain later hlt rfl
    exact List.lt_irrefl _ hlt
  · refine hleads.imp ?_
    rintro chain d ⟨earlier, last, rfl, rfl⟩
    exact ⟨earlier, last, rfl, Chain.describes_describe earlier last⟩
  · intro earlier last child place property hlast hchild hplace
    obtain ⟨hdeclared, hnodup⟩ := (hmem _).mp hlast
    have hnames : Chain.typeNames (earlier ++ [last] ++ [⟨child, place, property⟩]) =
        Chain.typeNames (earlier ++ [last]) ++ [child.name] := by
      simp [Chain.typeNames]
    rw [hmem, and_iff_right (Chain.declared_concat hdeclared hchild hplace), hnames,
      ← List.concat_eq_append, List.nodup_concat, and_iff_left hnodup]

/-- An order has two addresses, and an address leads back to orders. -/
def linked : TypeTable :=
  [⟨"Order", [⟨"Billing", .object 1, none⟩, ⟨"Shipping", .optional (.list (.object 1)), none⟩]⟩,
    ⟨"Address", [⟨"City", .string, some {}⟩, ⟨"Orders", .list (.object 0), none⟩]⟩]

def linkedAddress (property : PropertySchema) : List Descriptor :=
  [describe "Order" none property,
    describe "Address" (some property.name) ⟨"City", .string, some {}⟩,
    describe "Address" (some property.name) ⟨"Orders", .list (.object 0), none⟩]

theorem checkProperty_of_named {typeName : String} {path : Option String} {earlier : List String}
    {name : String} {type : ValueType} (hname : Text.isBlank name = false)
    (hnew : name ∉ earlier) :
    checkProperty typeName path earlier ⟨name, type, none⟩ = .ok () := by
  simp [checkProperty, hname, hnew]

/-- Orders are not entered from an address. -/
theorem walkType_linkedAddress (name : String) :
    walkType linked ["Order"] (some name)
      ⟨⟨"Address", [⟨"City", .string, some {}⟩, ⟨"Orders", .list (.object 0), none⟩]⟩,
        List.mem_cons_of_mem _ List.mem_cons_self, by decide⟩ =
      .ok [describe "Address" (some name) ⟨"City", .string, some {}⟩,
        describe "Address" (some name) ⟨"Orders", .list (.object 0), none⟩] := by
  have hcity : checkProperty "Address" (some name) [] ⟨"City", .string, some {}⟩ = .ok () := by
    have hnamed : Text.isBlank "City" = false := by decide +kernel
    have hkey : Text.isBlank "_key" = false := by decide +kernel
    simp [checkProperty, hnamed, hkey]
  have horders : checkProperty "Address" (some name) ["City"] ⟨"Orders", .list (.object 0), none⟩ =
      .ok () := checkProperty_of_named (by decide +kernel) (by decide)
  have hentry : linked[0]? = some ⟨"Order", [⟨"Billing", .object 1, none⟩,
      ⟨"Shipping", .optional (.list (.object 1)), none⟩]⟩ := rfl
  rw [walkType_of_named _ (by decide +kernel), walkProperties_cons_of_none hcity rfl,
    walkProperties_cons_of_visited horders rfl hentry (by simp), walkProperties_nil]
  rfl

theorem build_linked :
    DocumentSchema.build linked = .ok ⟨"Order", linkedAddress ⟨"Billing", .object 1, none⟩ ++
      linkedAddress ⟨"Shipping", .optional (.list (.object 1)), none⟩⟩ := by
  have hbilling : checkProperty "Order" none [] ⟨"Billing", .object 1, none⟩ = .ok () :=
    checkProperty_of_named (by decide +kernel) (by decide)
  have hshipping : checkProperty "Order" none ["Billing"]
      ⟨"Shipping", .optional (.list (.object 1)), none⟩ = .ok () :=
    checkProperty_of_named (by decide +kernel) (by decide)
  have hwalk : descriptors linked = .ok (linkedAddress ⟨"Billing", .object 1, none⟩ ++
      linkedAddress ⟨"Shipping", .optional (.list (.object 1)), none⟩) := by
    have hroot : descriptors linked = walkProperties linked ["Order"] none "Order" []
        [⟨"Billing", .object 1, none⟩, ⟨"Shipping", .optional (.list (.object 1)), none⟩] :=
      walkType_of_named _ (by decide +kernel)
    rw [hroot, walkProperties_cons_of_some hbilling rfl rfl (by decide),
      walkProperties_cons_of_some hshipping rfl rfl (by decide), walkProperties_nil]
    simp only [describe, joinPath, walkType_linkedAddress]
    rfl
  rw [DocumentSchema.build, hwalk]
  rfl

def cityOf (place : Nat) (property : PropertySchema) : Chain :=
  [⟨linked.root, place, property⟩,
    ⟨linked.entry 1, 0, ⟨"City", .string, some {}⟩⟩]

/-- Both addresses are gone through, neither of them back to its order. -/
theorem build_lists_chains_linked :
    ∃ schema, DocumentSchema.build linked = .ok schema ∧
      ∃ chains : List Chain, List.Forall₂ (fun chain d => ∃ earlier last,
          chain = earlier ++ [last] ∧ Chain.Describes earlier last d) chains schema.descriptors ∧
        cityOf 0 ⟨"Billing", .object 1, none⟩ ∈ chains ∧
        cityOf 1 ⟨"Shipping", .optional (.list (.object 1)), none⟩ ∈ chains ∧
        chains.length = 6 ∧
        ∀ chain ∈ chains, ¬["Order", "Address", "Order"] <+: Chain.typeNames chain := by
  obtain ⟨chains, hmem, -, -, hdescribed, -⟩ := build_lists_chains linked _ build_linked
  refine ⟨_, build_linked, chains, hdescribed, ?_, ?_, hdescribed.length_eq, ?_⟩
  · exact (hmem _).mpr ⟨.next rfl (.object rfl) (.last rfl), by decide⟩
  · exact (hmem _).mpr ⟨.next rfl (.optional (.list (.object rfl))) (.last rfl), by decide⟩
  · intro chain hchain hprefix
    exact absurd (((hmem _).mp hchain).2.sublist hprefix.sublist) (by decide)

end SearchStore
