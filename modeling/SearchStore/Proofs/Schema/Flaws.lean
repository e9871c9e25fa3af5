import SearchStore.Proofs.Schema.Chains

/-!
What is wrong with a table of types, described without the walk. A flaw is found at the
end of a chain: in its last property, or in the type of the objects that this property
holds, unless this type is on the chain already. Flaws have an order: those at the end
of a chain come before those further on and before those where a later property turns
off, and those at the end of one chain come in the order in which a property is looked
at. A table is refused exactly if it has a flaw, and the first one is reported.
-/

namespace SearchStore

/-- The type of the objects that a property holds. Beyond the end of the table it is a
type without name or properties. -/
def PropertySchema.held? (table : TypeTable) (property : PropertySchema) : Option TypeSchema :=
  property.type.element?.map table.entry

end SearchStore

namespace SearchStore.Schema

/-- What may be wrong where a chain ends: with its last property, or with the name of
the type of objects that this property holds. -/
inductive Flaw where
  | unnamedProperty
  | repeatedProperty
  | blankOrder
  | unnamedType
deriving DecidableEq, Repr

def Flaw.rank : Flaw → Nat
  | .unnamedProperty => 0
  | .repeatedProperty => 1
  | .blankOrder => 2
  | .unnamedType => 3

abbrev Flaws := Chain → Flaw → SchemaError → Prop

/-- Whether a flaw at the end of a chain comes before another one at the end of another
chain. -/
def Precedes (chain : Chain) (flaw : Flaw) (other : Chain) (later : Flaw) : Prop :=
  chain.places < other.places ∨ chain.places = other.places ∧ flaw.rank < later.rank

structure Flaws.IsFirst (flaws : Flaws) (chain : Chain) (flaw : Flaw) (error : SchemaError) :
    Prop where
  holds : flaws chain flaw error
  first : ∀ other earlier error', flaws other earlier error' → ¬ Precedes other earlier chain flaw

/-- What may be wrong with a property by itself, under the path of the objects that have it. -/
inductive Step.Flawed (path : Option String) (step : Step) : Flaw → SchemaError → Prop
  | unnamed (hblank : Text.isBlank step.property.name = true) :
      Flawed path step .unnamedProperty (.missingPropertyName step.type.name)
  | repeated
      (hearlier : step.property.name ∈ (step.type.properties.take step.place).map (·.name)) :
      Flawed path step .repeatedProperty (.duplicateProperty step.type.name step.property.name)
  | blankOrder {spec : AggregateSpec} (hspec : step.property.aggregate = some spec)
      (hblank : Text.isBlank spec.order = true) :
      Flawed path step .blankOrder (.emptyAggregateOrder (joinPath path step.property.name))

namespace Chain

/-- A chain leads from a type to the type of the objects that its last property holds. -/
inductive Connects (table : TypeTable) : TypeSchema → Chain → TypeSchema → Prop
  | nil (type : TypeSchema) : Connects table type [] type
  | cons {type child last : TypeSchema} {place : Nat} {property : PropertySchema} {rest : Chain}
      (hplace : type.properties[place]? = some property)
      (hheld : property.held? table = some child) (hrest : Connects table child rest last) :
      Connects table type (⟨type, place, property⟩ :: rest) last

/-- A type is reached by a chain on which, this type included, no name of a type comes
twice, and none of those in `visiting`. -/
structure Reaches (table : TypeTable) (visiting : List String) (start : TypeSchema)
    (chain : Chain) (type : TypeSchema) : Prop where
  connects : Connects table start chain type
  nodup : (chain.typeNames ++ [type.name]).Nodup
  unvisited : (chain.typeNames ++ [type.name]).Disjoint visiting

inductive Flawed (table : TypeTable) (visiting : List String) (path : Option String)
    (start : TypeSchema) : Flaws
  | type {chain : Chain} {type : TypeSchema} (hreaches : Reaches table visiting start chain type)
      (hblank : Text.isBlank type.name = true) :
      Flawed table visiting path start chain .unnamedType
        (.missingTypeName ((pathFrom path chain).getD "<root>"))
  | property {chain : Chain} {type : TypeSchema} {place : Nat} {property : PropertySchema}
      {flaw : Flaw} {error : SchemaError} (hreaches : Reaches table visiting start chain type)
      (hplace : type.properties[place]? = some property)
      (hflawed : Step.Flawed (pathFrom path chain) ⟨type, place, property⟩ flaw error) :
      Flawed table visiting path start (chain ++ [⟨type, place, property⟩]) flaw error

variable {table : TypeTable} {visiting : List String} {path : Option String}
  {start type : TypeSchema} {step : Step} {rest : Chain} {flaw : Flaw} {error : SchemaError}

theorem connects_cons_iff :
    Connects table start (step :: rest) type ↔
      step.type = start ∧ start.properties[step.place]? = some step.property ∧
        ∃ child, step.property.held? table = some child ∧ Connects table child rest type := by
  constructor
  · intro h
    cases h with
    | cons hplace hheld hrest => exact ⟨rfl, hplace, _, hheld, hrest⟩
  · rintro ⟨rfl, hplace, child, hheld, hrest⟩
    exact .cons hplace hheld hrest

theorem reaches_nil_iff :
    Reaches table visiting start [] type ↔ type = start ∧ start.name ∉ visiting := by
  constructor
  · rintro ⟨hconnects, -, hunvisited⟩
    cases hconnects with
    | nil => exact ⟨rfl, by simpa [typeNames] using hunvisited⟩
  · rintro ⟨rfl, hnew⟩
    exact ⟨.nil type, by simp [typeNames], by simpa [typeNames] using hnew⟩

theorem reaches_cons_iff :
    Reaches table visiting start (step :: rest) type ↔
      start.name ∉ visiting ∧ step.type = start ∧
        start.properties[step.place]? = some step.property ∧
        ∃ child, step.property.held? table = some child ∧
          Reaches table (start.name :: visiting) child rest type := by
  constructor
  · rintro ⟨hconnects, hnodup, hunvisited⟩
    obtain ⟨rfl, hplace, child, hheld, hrest⟩ := connects_cons_iff.mp hconnects
    simp only [typeNames, List.map_cons, List.cons_append, List.nodup_cons,
      List.disjoint_cons_left] at hnodup hunvisited
    refine ⟨hunvisited.1, rfl, hplace, child, hheld, hrest, hnodup.2, ?_⟩
    exact List.disjoint_cons_right.mpr ⟨hnodup.1, hunvisited.2⟩
  · rintro ⟨hnew, rfl, hplace, child, hheld, hrest, hnodup, hunvisited⟩
    obtain ⟨hself, hothers⟩ := List.disjoint_cons_right.mp hunvisited
    refine ⟨connects_cons_iff.mpr ⟨rfl, hplace, child, hheld, hrest⟩, ?_, ?_⟩
    · exact List.nodup_cons.mpr ⟨hself, hnodup⟩
    · exact List.disjoint_cons_left.mpr ⟨hnew, hothers⟩

theorem flawed_nil_iff :
    Flawed table visiting path start [] flaw error ↔
      start.name ∉ visiting ∧ Text.isBlank start.name = true ∧ flaw = .unnamedType ∧
        error = .missingTypeName (path.getD "<root>") := by
  constructor
  · intro h
    generalize hchain : ([] : Chain) = chain at h
    cases h with
    | type hreaches hblank =>
      subst hchain
      obtain ⟨rfl, hnew⟩ := reaches_nil_iff.mp hreaches
      exact ⟨hnew, hblank, rfl, rfl⟩
    | property => simp at hchain
  · rintro ⟨hnew, hblank, rfl, rfl⟩
    exact .type (reaches_nil_iff.mpr ⟨rfl, hnew⟩) hblank

/-- A flaw at the end of a chain is one of its only property, or one at the end of the
rest of the chain. -/
theorem flawed_cons_iff :
    Flawed table visiting path start (step :: rest) flaw error ↔
      start.name ∉ visiting ∧ step.type = start ∧
        start.properties[step.place]? = some step.property ∧
        (rest = [] ∧ step.Flawed path flaw error ∨
          ∃ child, step.property.held? table = some child ∧
            Flawed table (start.name :: visiting) (some (joinPath path step.property.name)) child
              rest flaw error) := by
  constructor
  · intro h
    generalize hchain : step :: rest = chain at h
    cases h with
    | type hreaches hblank =>
      subst hchain
      obtain ⟨hnew, htype, hplace, child, hheld, hrest⟩ := reaches_cons_iff.mp hreaches
      exact ⟨hnew, htype, hplace, .inr ⟨child, hheld, .type hrest hblank⟩⟩
    | @property chain last place property flaw error hreaches hplace hflawed =>
      cases chain with
      | nil =>
        obtain ⟨rfl, rfl⟩ := List.cons.inj hchain
        obtain ⟨rfl, hnew⟩ := reaches_nil_iff.mp hreaches
        exact ⟨hnew, rfl, hplace, .inl ⟨rfl, hflawed⟩⟩
      | cons first others =>
        obtain ⟨rfl, rfl⟩ := List.cons.inj hchain
        obtain ⟨hnew, htype, hfirst, child, hheld, hrest⟩ := reaches_cons_iff.mp hreaches
        exact ⟨hnew, htype, hfirst, .inr ⟨child, hheld, .property hrest hplace hflawed⟩⟩
  · rintro ⟨hnew, rfl, hplace, ⟨rfl, hflawed⟩ | ⟨child, hheld, hrest⟩⟩
    · have hhere : Reaches table visiting step.type [] step.type :=
        reaches_nil_iff.mpr ⟨rfl, hnew⟩
      exact .property hhere hplace hflawed
    · cases hrest with
      | type hreaches hblank =>
        exact .type (reaches_cons_iff.mpr ⟨hnew, rfl, hplace, child, hheld, hreaches⟩) hblank
      | property hreaches hlast hflawed =>
        rw [← List.cons_append]
        exact .property (reaches_cons_iff.mpr ⟨hnew, rfl, hplace, child, hheld, hreaches⟩) hlast
          hflawed

end Chain

theorem precedes_cons_iff {step : Step} {chain other : Chain} {flaw later : Flaw} :
    Precedes (step :: chain) flaw (step :: other) later ↔ Precedes chain flaw other later := by
  simp [Precedes, Chain.places]

theorem Precedes.asymm {chain other : Chain} {flaw later : Flaw}
    (h : Precedes chain flaw other later) : ¬ Precedes other later chain flaw := by
  rintro (hlt | ⟨hsame, hrank⟩)
  · rcases h with hchain | ⟨hchain, -⟩
    · exact List.lt_asymm hlt hchain
    · exact List.lt_irrefl _ (hchain ▸ hlt)
  · rcases h with hchain | ⟨-, hflaw⟩
    · exact List.lt_irrefl _ (hsame ▸ hchain)
    · omega

namespace Flaws

/-- What has flaws is refused with the first of them, and what has none is not refused. -/
def ReportedBy {α : Type} (flaws : Flaws) : Except SchemaError α → Prop
  | .ok _ => ∀ chain flaw error, ¬ flaws chain flaw error
  | .error error => ∃ chain flaw, flaws.IsFirst chain flaw error

variable {α β : Type} {first second flaws : Flaws}

theorem ReportedBy.congr {result : Except SchemaError α} (h : first.ReportedBy result)
    (hsame : ∀ chain flaw error, first chain flaw error ↔ second chain flaw error) :
    second.ReportedBy result := by
  obtain rfl : first = second := by
    funext chain flaw error
    exact propext (hsame chain flaw error)
  exact h

def union (first second : Flaws) : Flaws := fun chain flaw error =>
  first chain flaw error ∨ second chain flaw error

/-- Of two lots of flaws, one before the other, the second is looked at if there are none
in the first. -/
theorem ReportedBy.bind {result : Except SchemaError α} {next : α → Except SchemaError β}
    (hfirst : first.ReportedBy result) (hsecond : ∀ a, second.ReportedBy (next a))
    (hbefore : ∀ chain flaw error other later error', first chain flaw error →
      second other later error' → Precedes chain flaw other later) :
    (first.union second).ReportedBy (result >>= next) := by
  cases result with
  | error error =>
    obtain ⟨chain, flaw, hholds, hleast⟩ := hfirst
    refine ⟨chain, flaw, .inl hholds, ?_⟩
    rintro other earlier error' (hother | hother)
    · exact hleast other earlier error' hother
    · exact (hbefore _ _ _ _ _ _ hholds hother).asymm
  | ok a =>
    refine (hsecond a).congr fun chain flaw error => ?_
    exact (or_iff_right (hfirst chain flaw error)).symm

theorem ReportedBy.map {result : Except SchemaError α} (h : flaws.ReportedBy result)
    (f : α → β) : flaws.ReportedBy (result >>= fun a => pure (f a)) := by
  cases result with
  | error error => exact h
  | ok a => exact h

/-- The flaws at the ends of chains that begin with a step. -/
def behind (step : Step) (flaws : Flaws) : Flaws := fun chain flaw error =>
  ∃ rest, chain = step :: rest ∧ flaws rest flaw error

theorem ReportedBy.behind {result : Except SchemaError α} (h : flaws.ReportedBy result)
    (step : Step) : (flaws.behind step).ReportedBy result := by
  cases result with
  | error error =>
    obtain ⟨chain, flaw, hholds, hleast⟩ := h
    refine ⟨step :: chain, flaw, ⟨chain, rfl, hholds⟩, ?_⟩
    rintro _ earlier error' ⟨other, rfl, hother⟩
    rw [precedes_cons_iff]
    exact hleast other earlier error' hother
  | ok a =>
    rintro _ flaw error ⟨chain, rfl, hholds⟩
    exact h chain flaw error hholds

end Flaws

section Walk

variable {table : TypeTable} {visiting : List String} {path : Option String} {type : TypeSchema}

def Step.flaws (path : Option String) (step : Step) : Flaws := fun chain flaw error =>
  chain = [step] ∧ step.Flawed path flaw error

/-- A property by itself is refused with the first of its own flaws. -/
theorem reportedBy_checkProperty (path : Option String) (step : Step) {earlier : List String}
    (hearlier : ∀ name, name ∈ earlier ↔
      name ∈ (step.type.properties.take step.place).map (·.name)) :
    (step.flaws path).ReportedBy (checkProperty step.type.name path earlier step.property) := by
  have hsame (flaw later : Flaw) : Precedes [step] later [step] flaw ↔ later.rank < flaw.rank := by
    rw [Precedes, or_iff_right (List.lt_irrefl _), and_iff_right rfl]
  unfold checkProperty
  split
  · next hblank =>
    refine ⟨[step], .unnamedProperty, ⟨rfl, .unnamed hblank⟩, ?_⟩
    rintro _ later error' ⟨rfl, -⟩
    rw [hsame]
    exact Nat.not_lt_zero _
  · next hnamed =>
    split
    · next hrepeated =>
      refine ⟨[step], .repeatedProperty, ⟨rfl, .repeated ((hearlier _).mp hrepeated)⟩, ?_⟩
      rintro _ later error' ⟨rfl, hlater⟩
      rw [hsame]
      cases hlater with
      | unnamed hblank => exact absurd hblank hnamed
      | repeated => exact Nat.lt_irrefl _
      | blankOrder => decide
    · next hnew =>
      split
      · next hblank =>
        obtain ⟨spec, hspec, horder⟩ := (Option.any_eq_true _ _).mp hblank
        refine ⟨[step], .blankOrder, ⟨rfl, .blankOrder hspec horder⟩, ?_⟩
        rintro _ later error' ⟨rfl, hlater⟩
        rw [hsame]
        cases hlater with
        | unnamed hblank => exact absurd hblank hnamed
        | repeated hrepeated => exact absurd ((hearlier _).mpr hrepeated) hnew
        | blankOrder => exact Nat.lt_irrefl _
      · next hordered =>
        rintro _ flaw error ⟨rfl, hflawed⟩
        cases hflawed with
        | unnamed hblank => exact hnamed hblank
        | repeated hrepeated => exact hnew ((hearlier _).mpr hrepeated)
        | blankOrder hspec hblank =>
          exact hordered ((Option.any_eq_true _ _).mpr ⟨_, hspec, hblank⟩)

open Chain

def flawsBelow (table : TypeTable) (visiting : List String) (path : String)
    (property : PropertySchema) : Flaws := fun chain flaw error =>
  ∃ child, property.held? table = some child ∧
    Flawed table visiting (some path) child chain flaw error

/-- The flaws of the properties of a type from a place on and of what is reached through
them. -/
def flawsFrom (table : TypeTable) (visiting : List String) (path : Option String)
    (type : TypeSchema) (first : Nat) : Flaws := fun chain flaw error =>
  ∃ step rest, chain = step :: rest ∧ first ≤ step.place ∧
    Flawed table visiting path type chain flaw error

theorem not_flawsFrom {first : Nat} (h : type.properties.length ≤ first) (chain : Chain)
    (flaw : Flaw) (error : SchemaError) :
    ¬ flawsFrom table visiting path type first chain flaw error := by
  rintro ⟨step, rest, rfl, hfirst, hflawed⟩
  obtain ⟨-, -, hplace, -⟩ := flawed_cons_iff.mp hflawed
  obtain ⟨hlt, -⟩ := List.getElem?_eq_some_iff.mp hplace
  omega

/-- The flaws of the first property, of what is reached through it, and of the others. -/
theorem flawsFrom_iff {first : Nat} {property : PropertySchema}
    (hnew : type.name ∉ visiting) (hplace : type.properties[first]? = some property)
    (chain : Chain) (flaw : Flaw) (error : SchemaError) :
    (Step.flaws path ⟨type, first, property⟩).union
        (((flawsBelow table (type.name :: visiting) (joinPath path property.name) property).behind
          ⟨type, first, property⟩).union (flawsFrom table visiting path type (first + 1)))
        chain flaw error ↔
      flawsFrom table visiting path type first chain flaw error := by
  constructor
  · rintro (⟨rfl, hflawed⟩ | ⟨rest, rfl, child, hheld, hbelow⟩ | ⟨step, rest, rfl, hlater, hflawed⟩)
    · exact ⟨_, [], rfl, Nat.le_refl _,
        flawed_cons_iff.mpr ⟨hnew, rfl, hplace, .inl ⟨rfl, hflawed⟩⟩⟩
    · exact ⟨_, rest, rfl, Nat.le_refl _,
        flawed_cons_iff.mpr ⟨hnew, rfl, hplace, .inr ⟨child, hheld, hbelow⟩⟩⟩
    · exact ⟨step, rest, rfl, by omega, hflawed⟩
  · rintro ⟨step, rest, rfl, hfirst, hflawed⟩
    by_cases hhere : step.place = first
    · obtain ⟨-, htype, hproperty, hend⟩ := flawed_cons_iff.mp hflawed
      obtain ⟨type', place', property'⟩ := step
      simp only at htype hhere hproperty hend
      subst htype hhere
      obtain rfl : property' = property := Option.some.inj (hproperty.symm.trans hplace)
      rcases hend with ⟨rfl, hown⟩ | ⟨child, hheld, hbelow⟩
      · exact .inl ⟨rfl, hown⟩
      · exact .inr (.inl ⟨rest, rfl, child, hheld, hbelow⟩)
    · exact .inr (.inr ⟨step, rest, rfl, by omega, hflawed⟩)

/-- The flaws of a property come before those of what is reached through it. -/
theorem precedes_of_flawsBelow {step : Step} {place : String} {chain other : Chain}
    {flaw later : Flaw} {error error' : SchemaError} (hown : step.flaws path chain flaw error)
    (hbelow : (flawsBelow table visiting place step.property).behind step other later error') :
    Precedes chain flaw other later := by
  obtain ⟨rfl, hflawed⟩ := hown
  obtain ⟨rest, rfl, child, -, hrest⟩ := hbelow
  rw [precedes_cons_iff]
  cases rest with
  | nil =>
    obtain ⟨-, -, rfl, -⟩ := flawed_nil_iff.mp hrest
    exact .inr ⟨rfl, by cases hflawed <;> decide⟩
  | cons next others => exact .inl (List.nil_lt_cons _ _)

theorem precedes_of_place_lt (step : Step) {next : Step} (h : step.place < next.place)
    (rest others : Chain) (flaw later : Flaw) :
    Precedes (step :: rest) flaw (next :: others) later :=
  .inl (List.cons_lt_cons_iff.mpr (.inl h))

theorem not_visited_of_flawed {chain : Chain} {flaw : Flaw} {error : SchemaError}
    (h : Flawed table visiting path type chain flaw error) : type.name ∉ visiting := by
  cases chain with
  | nil => exact (flawed_nil_iff.mp h).1
  | cons step rest => exact (flawed_cons_iff.mp h).1

/-- A type without a name is a flaw before all that is reached from it. -/
theorem reportedBy_unnamed (path : Option String) (hnew : type.name ∉ visiting)
    (hblank : Text.isBlank type.name = true) {α : Type} :
    (Flawed table visiting path type : Flaws).ReportedBy
      (.error (.missingTypeName (path.getD "<root>")) : Except SchemaError α) := by
  refine ⟨[], .unnamedType, flawed_nil_iff.mpr ⟨hnew, hblank, rfl, rfl⟩, ?_⟩
  rintro other earlier error hother (hlt | ⟨hsame, hrank⟩)
  · exact List.not_lt_nil _ hlt
  · obtain rfl : other = [] := by simpa [Chain.places] using hsame
    obtain ⟨-, -, rfl, -⟩ := flawed_nil_iff.mp hother
    exact Nat.lt_irrefl _ hrank

/-- What lies under a property is refused with its first flaw if every type that may be
entered is. -/
theorem reportedBy_walkBelow (place : String) (property : PropertySchema)
    (hnamed : ∀ name ∈ visiting, Text.isBlank name = false)
    (hwalk : ∀ (child : Unvisited table visiting) path,
      (Flawed table visiting path child.val : Flaws).ReportedBy
        (walkType table visiting path child)) :
    (flawsBelow table visiting place property).ReportedBy
      (walkBelow table visiting place property) := by
  cases hobject : property.type.element? with
  | none =>
    rw [walkBelow_of_none hobject]
    rintro chain flaw error ⟨child, hheld, -⟩
    simp [PropertySchema.held?, hobject] at hheld
  | some entry =>
    have hheld : property.held? table = some (table.entry entry) := by
      rw [PropertySchema.held?, hobject, Option.map_some]
    have hbelow (chain : Chain) (flaw : Flaw) (error : SchemaError) :
        Flawed table visiting (some place) (table.entry entry) chain flaw error ↔
          flawsBelow table visiting place property chain flaw error := by
      simp [flawsBelow, hheld]
    cases hfound : table[entry]? with
    | none =>
      have hentry : table.entry entry = {} := by
        rw [TypeTable.entry, hfound, Option.getD_none]
      rw [walkBelow_of_dangling hobject hfound]
      refine Flaws.ReportedBy.congr ?_ hbelow
      have hblank : Text.isBlank "" = true := rfl
      have hnew : "" ∉ visiting := fun hmem => by simp [hnamed _ hmem] at hblank
      rw [hentry]
      exact reportedBy_unnamed (some place) hnew hblank
    | some child =>
      have hentry : table.entry entry = child := by
        rw [TypeTable.entry, hfound, Option.getD_some]
      rw [walkBelow_of_child hobject hfound]
      refine Flaws.ReportedBy.congr ?_ hbelow
      rw [hentry]
      split
      · next hvisited => exact fun _ _ _ hflawed => not_visited_of_flawed hflawed hvisited
      · next hnew => exact hwalk ⟨child, List.mem_of_getElem? hfound, hnew⟩ (some place)

/-- The properties of a type from a place on are refused with their first flaw if every
type that may be entered is. -/
theorem reportedBy_walkProperties (path : Option String) (hnew : type.name ∉ visiting)
    (hnamed : ∀ name ∈ type.name :: visiting, Text.isBlank name = false)
    (hwalk : ∀ (child : Unvisited table (type.name :: visiting)) path,
      (Flawed table (type.name :: visiting) path child.val : Flaws).ReportedBy
        (walkType table (type.name :: visiting) path child))
    (properties : List PropertySchema) (first : Nat)
    (hproperties : type.properties.drop first = properties) (earlier : List String)
    (hearlier : ∀ name, name ∈ earlier ↔ name ∈ (type.properties.take first).map (·.name)) :
    (flawsFrom table visiting path type first).ReportedBy
      (walkProperties table (type.name :: visiting) path type.name earlier properties) := by
  induction properties generalizing first earlier with
  | nil =>
    rw [walkProperties_nil]
    exact not_flawsFrom (List.drop_eq_nil_iff.mp hproperties)
  | cons property rest ih =>
    have hplace : type.properties[first]? = some property := by
      rw [← List.head?_drop, hproperties, List.head?_cons]
    have hrest : type.properties.drop (first + 1) = rest := by
      rw [← List.tail_drop, hproperties, List.tail_cons]
    have hnext (name : String) : name ∈ property.name :: earlier ↔
        name ∈ (type.properties.take (first + 1)).map (·.name) := by
      rw [List.take_add_one, hplace, List.map_append, List.mem_append, List.mem_cons, hearlier]
      simp [or_comm]
    have hown := reportedBy_checkProperty path ⟨type, first, property⟩ hearlier
    have hbelow := (reportedBy_walkBelow (joinPath path property.name) property hnamed
      hwalk).behind ⟨type, first, property⟩
    have hafter := ih (first + 1) hrest _ hnext
    rw [walkProperties_cons]
    refine (hown.bind (fun _ => hbelow.bind (fun _ => hafter.map _) ?_) ?_).congr
      (flawsFrom_iff hnew hplace)
    · rintro _ flaw error _ later error' ⟨rest, rfl, -⟩ ⟨step, others, rfl, hlater, -⟩
      exact precedes_of_place_lt ⟨type, first, property⟩ hlater rest others flaw later
    · rintro chain flaw error _ later error' hflawed (hunder | ⟨step, others, rfl, hlater, -⟩)
      · exact precedes_of_flawsBelow hflawed hunder
      · obtain ⟨rfl, -⟩ := hflawed
        exact precedes_of_place_lt ⟨type, first, property⟩ hlater [] others flaw later

/-- A type is refused with its first flaw. -/
theorem reportedBy_walkType (visiting : List String) (type : Unvisited table visiting)
    (path : Option String) (hnamed : ∀ name ∈ visiting, Text.isBlank name = false) :
    (Flawed table visiting path type.val : Flaws).ReportedBy
      (walkType table visiting path type) := by
  -- On how many types of the table are not yet on the way.
  induction hn : (unvisited table visiting).length using Nat.strongRecOn
    generalizing visiting path with
  | ind n ih =>
    cases hblank : Text.isBlank type.val.name with
    | true =>
      rw [walkType, if_pos hblank]
      exact reportedBy_unnamed path type.property.2 hblank
    | false =>
      have hfurther : ∀ name ∈ type.val.name :: visiting, Text.isBlank name = false :=
        List.forall_mem_cons.mpr ⟨hblank, hnamed⟩
      have hless := length_unvisited_cons_lt type.property.1 type.property.2
      have hproperties := reportedBy_walkProperties path type.property.2 hfurther
        (fun child path => ih _ (hn ▸ hless) _ child path hfurther rfl)
        type.val.properties 0 List.drop_zero [] (by simp)
      rw [walkType_of_named type hblank]
      refine hproperties.congr fun chain flaw error => ⟨?_, fun hflawed => ?_⟩
      · rintro ⟨_, _, _, _, hflawed⟩
        exact hflawed
      · cases chain with
        | nil =>
          obtain ⟨-, hunnamed, -⟩ := flawed_nil_iff.mp hflawed
          exact absurd (hblank.symm.trans hunnamed) Bool.false_ne_true
        | cons step rest => exact ⟨step, rest, rfl, Nat.zero_le _, hflawed⟩

/-- A table is refused with its first flaw. -/
theorem reportedBy_build (table : TypeTable) :
    (Flawed table [] none table.root : Flaws).ReportedBy (DocumentSchema.build table) := by
  cases table with
  | nil => exact reportedBy_unnamed none List.not_mem_nil rfl
  | cons root others =>
    have hroot : root ∈ root :: others := List.mem_cons_self
    exact (reportedBy_walkType [] ⟨root, hroot, List.not_mem_nil⟩ none nofun).map _

end Walk

section Unique

variable {table : TypeTable} {path : Option String}

theorem Step.Flawed.rank_lt {step : Step} {flaw : Flaw} {error : SchemaError}
    (h : step.Flawed path flaw error) : flaw.rank < Flaw.unnamedType.rank := by
  cases h <;> decide

theorem Step.Flawed.unique {step : Step} {flaw later : Flaw} {error error' : SchemaError}
    (h : step.Flawed path flaw error) (hlater : step.Flawed path later error')
    (hrank : flaw.rank = later.rank) : error = error' := by
  cases h <;> cases hlater <;> first | rfl | exact nomatch hrank

/-- What is found at one place is reported in one way. -/
theorem Chain.Flawed.unique {visiting : List String} {start : TypeSchema} {chain other : Chain}
    {flaw later : Flaw} {error error' : SchemaError}
    (h : Flawed table visiting path start chain flaw error)
    (hother : Flawed table visiting path start other later error')
    (hplaces : chain.places = other.places) (hrank : flaw.rank = later.rank) : error = error' := by
  induction chain generalizing visiting path start other with
  | nil =>
    obtain rfl : other = [] := by simpa [places] using hplaces.symm
    obtain ⟨-, -, -, rfl⟩ := flawed_nil_iff.mp h
    obtain ⟨-, -, -, rfl⟩ := flawed_nil_iff.mp hother
    rfl
  | cons step rest ih =>
    obtain ⟨next, others, rfl, hplace, hrest⟩ := List.map_eq_cons_iff.mp hplaces.symm
    obtain ⟨-, htype, hproperty, hend⟩ := flawed_cons_iff.mp h
    obtain ⟨-, htype', hproperty', hend'⟩ := flawed_cons_iff.mp hother
    obtain rfl : step = next := by
      obtain ⟨type, place, property⟩ := step
      obtain ⟨type', place', property'⟩ := next
      simp only at htype htype' hplace hproperty hproperty'
      subst htype htype' hplace
      rw [Option.some.inj (hproperty.symm.trans hproperty')]
    rcases hend with ⟨rfl, hown⟩ | ⟨child, hheld, hbelow⟩
    · obtain rfl : others = [] := by simpa using hrest
      rcases hend' with ⟨-, hown'⟩ | ⟨child, -, hbelow⟩
      · exact hown.unique hown' hrank
      · obtain ⟨-, -, rfl, -⟩ := flawed_nil_iff.mp hbelow
        exact absurd hrank (Nat.ne_of_lt hown.rank_lt)
    · rcases hend' with ⟨rfl, hown⟩ | ⟨child', hheld', hbelow'⟩
      · obtain rfl : rest = [] := by simpa using hrest.symm
        obtain ⟨-, -, rfl, -⟩ := flawed_nil_iff.mp hbelow
        exact absurd hrank.symm (Nat.ne_of_lt hown.rank_lt)
      · obtain rfl : child = child' := Option.some.inj (hheld.symm.trans hheld')
        exact ih hbelow hbelow' hrest.symm

/-- There is at most one first flaw. -/
theorem Chain.Flawed.isFirst_unique {visiting : List String} {start : TypeSchema}
    {chain other : Chain} {flaw later : Flaw} {error error' : SchemaError}
    (h : Flaws.IsFirst (Flawed table visiting path start) chain flaw error)
    (hother : Flaws.IsFirst (Flawed table visiting path start) other later error') :
    error = error' := by
  have hbefore := h.first _ _ _ hother.holds
  have hafter := hother.first _ _ _ h.holds
  simp only [Precedes, not_or, not_and] at hbefore hafter
  have hplaces : chain.places = other.places :=
    List.le_antisymm (List.not_lt.mp hbefore.1) (List.not_lt.mp hafter.1)
  have hrank := hbefore.2 hplaces.symm
  have hrank' := hafter.2 hplaces
  exact h.holds.unique hother.holds hplaces (by omega)

end Unique

end SearchStore.Schema

namespace SearchStore

open Schema

/-- A table of types is refused exactly if something is wrong with the document or with a
type that is reached from it, and what is reported is the first flaw in the order of the
chains. -/
theorem build_reports_first_flaw (table : TypeTable) :
    ((∃ error, DocumentSchema.build table = .error error) ↔
      ∃ chain flaw error, Chain.Flawed table [] none table.root chain flaw error) ∧
    ∀ error, DocumentSchema.build table = .error error ↔
      ∃ chain flaw, Flaws.IsFirst (Chain.Flawed table [] none table.root) chain flaw error := by
  have hreported := reportedBy_build table
  cases hbuild : DocumentSchema.build table with
  | ok schema =>
    rw [hbuild] at hreported
    refine ⟨⟨nofun, fun ⟨_, _, _, hflawed⟩ => absurd hflawed (hreported _ _ _)⟩, fun error => ?_⟩
    exact ⟨nofun, fun ⟨_, _, hfirst⟩ => absurd hfirst.holds (hreported _ _ _)⟩
  | error error =>
    rw [hbuild] at hreported
    obtain ⟨chain, flaw, hfirst⟩ := hreported
    refine ⟨⟨fun _ => ⟨chain, flaw, error, hfirst.holds⟩, fun _ => ⟨error, rfl⟩⟩, fun other => ?_⟩
    constructor
    · rintro ⟨⟩
      exact ⟨chain, flaw, hfirst⟩
    · rintro ⟨chain', flaw', hother⟩
      rw [Chain.Flawed.isFirst_unique hfirst hother]

/-- A name comes twice, but the order of the first property with it is looked at before. -/
example : DocumentSchema.build
    [⟨"Order", [⟨"Total", .integer, some { order := " " }⟩, ⟨"Total", .string, none⟩]⟩] =
      .error (.emptyAggregateOrder "Total") := by
  cbv

end SearchStore
