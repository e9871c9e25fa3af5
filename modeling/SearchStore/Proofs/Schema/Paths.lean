import SearchStore.Proofs.Schema.Flaws
import SearchStore.Proofs.Schema.Segments

/-!
Paths as addresses. Where nothing is wrong with a table, no type declares two properties
of one name, so a chain is told by the names of its properties. Names without dots are
read off their path, so a property is told by its path, and it is found by it whatever
the names of the properties before it are.
-/

namespace SearchStore.Schema

def Sound (table : TypeTable) (visiting : List String) (path : Option String)
    (start : TypeSchema) : Prop :=
  ∀ chain flaw error, ¬ Chain.Flawed table visiting path start chain flaw error

namespace Chain

variable {table : TypeTable} {visiting : List String} {path : Option String}
  {start child : TypeSchema} {chain other : Chain}

def names (chain : Chain) : List String := chain.map (·.property.name)

theorem held?_of_holds {property : PropertySchema} (h : Holds table child property.type) :
    property.held? table = some child := by
  obtain ⟨entry, helement, hentry⟩ := Option.bind_eq_some_iff.mp (holds_iff.mp h)
  rw [PropertySchema.held?, helement, Option.map_some, TypeTable.entry, hentry, Option.getD_some]

theorem not_flawed_of_sound {step : Step} {flaw : Flaw} {error : SchemaError}
    (hsound : Sound table visiting path start) (hnew : start.name ∉ visiting)
    (htype : step.type = start) (hplace : start.properties[step.place]? = some step.property) :
    ¬ step.Flawed path flaw error := fun hflawed =>
  hsound [step] flaw error (flawed_cons_iff.mpr ⟨hnew, htype, hplace, .inl ⟨rfl, hflawed⟩⟩)

/-- Nothing is wrong with what is reached through a property either. -/
theorem sound_of_holds {step : Step} (hsound : Sound table visiting path start)
    (hnew : start.name ∉ visiting) (htype : step.type = start)
    (hplace : start.properties[step.place]? = some step.property)
    (hchild : Holds table child step.property.type) :
    Sound table (start.name :: visiting) (some (joinPath path step.property.name)) child :=
  fun chain flaw error hflawed => hsound (step :: chain) flaw error
    (flawed_cons_iff.mpr ⟨hnew, htype, hplace, .inr ⟨child, held?_of_holds hchild, hflawed⟩⟩)

/-- No name is declared twice. -/
theorem names_nodup_of_sound (hsound : Sound table visiting path start)
    (hnew : start.name ∉ visiting) : (start.properties.map (·.name)).Nodup := by
  rw [List.nodup_iff_getElem?_ne_getElem?]
  intro place later hlt hlength hsame
  rw [List.length_map] at hlength
  have hplace := List.getElem?_eq_getElem hlength
  let step : Step := ⟨start, later, start.properties[later]⟩
  have hearlier : step.property.name ∈ (start.properties.take later).map (·.name) := by
    rw [List.getElem?_map, List.getElem?_map, hplace] at hsame
    refine List.mem_iff_getElem?.mpr ⟨place, ?_⟩
    rw [List.getElem?_map, List.getElem?_take_of_lt hlt, hsame, Option.map_some]
  have hrepeated : step.Flawed path .repeatedProperty
      (.duplicateProperty start.name step.property.name) := .repeated hearlier
  exact not_flawed_of_sound hsound hnew rfl hplace hrepeated

theorem not_blank_of_sound (hsound : Sound table visiting path start)
    (hdeclared : Declared table start chain) (hfresh : Fresh visiting chain) :
    ∀ name ∈ chain.names, Text.isBlank name = false := by
  induction chain generalizing visiting path start with
  | nil => exact fun _ hname => absurd hname List.not_mem_nil
  | cons step rest ih =>
    obtain ⟨htype, hplace, hend⟩ := declared_cons_iff.mp hdeclared
    obtain ⟨hnew, hrest⟩ := fresh_cons_iff.mp hfresh
    rw [htype] at hnew hrest
    refine List.forall_mem_cons.mpr ⟨?_, ?_⟩
    · rw [← Bool.not_eq_true]
      exact fun hblank => not_flawed_of_sound hsound hnew htype hplace (.unnamed hblank)
    · rcases hend with rfl | ⟨child, hchild, hdeclared'⟩
      · exact fun _ hname => absurd hname List.not_mem_nil
      · exact ih (sound_of_holds hsound hnew htype hplace hchild) hdeclared' hrest

/-- Chains are told by the names of their properties. -/
theorem eq_of_names_eq (hsound : Sound table visiting path start)
    (hchain : Declared table start chain) (hfresh : Fresh visiting chain)
    (hother : Declared table start other) (hnames : chain.names = other.names) :
    chain = other := by
  induction chain generalizing visiting path start other with
  | nil => exact (List.map_eq_nil_iff.mp hnames.symm).symm
  | cons step rest ih =>
    obtain ⟨next, others, rfl, hname, hrest⟩ := List.map_eq_cons_iff.mp hnames.symm
    obtain ⟨htype, hplace, hend⟩ := declared_cons_iff.mp hchain
    obtain ⟨htype', hplace', hend'⟩ := declared_cons_iff.mp hother
    obtain ⟨hnew, hfresh'⟩ := fresh_cons_iff.mp hfresh
    rw [htype] at hnew hfresh'
    -- The names of one type are all different, so the same name stands at the same place.
    obtain rfl : step = next := by
      have hdeclaredNames := names_nodup_of_sound hsound hnew
      have hlength : step.place < (start.properties.map (·.name)).length := by
        rw [List.length_map]
        exact (List.getElem?_eq_some_iff.mp hplace).1
      have hsame : step.place = next.place := by
        rw [← List.getElem?_inj hlength hdeclaredNames, List.getElem?_map, List.getElem?_map,
          hplace, hplace', Option.map_some, Option.map_some, hname]
      obtain ⟨type, place, property⟩ := step
      obtain ⟨type', place', property'⟩ := next
      simp only at htype htype' hsame hplace hplace'
      subst htype htype' hsame
      rw [Option.some.inj (hplace.symm.trans hplace')]
    rcases hend with rfl | ⟨child, hchild, hdeclared⟩
    · rw [List.map_eq_nil_iff.mp hrest]
    · rcases hend' with rfl | ⟨child', hchild', hdeclared'⟩
      · rw [List.map_eq_nil_iff.mp hrest.symm]
      · obtain rfl : child = child' :=
          Option.some.inj ((held?_of_holds hchild).symm.trans (held?_of_holds hchild'))
        rw [ih (sound_of_holds hsound hnew htype hplace hchild) hdeclared hfresh' hdeclared'
          hrest.symm]

/-- What holds of all declared properties holds of those of a chain. -/
theorem Declared.forall_property {p : PropertySchema → Prop} (h : Declared table start chain)
    (hstart : ∀ property ∈ start.properties, p property)
    (htable : ∀ type ∈ table, ∀ property ∈ type.properties, p property) :
    ∀ step ∈ chain, p step.property := by
  induction h with
  | last hplace =>
    rw [List.forall_mem_singleton]
    exact hstart _ (List.mem_of_getElem? hplace)
  | next hplace hchild hrest ih =>
    obtain ⟨entry, -, hentry⟩ := Option.bind_eq_some_iff.mp (holds_iff.mp hchild)
    have hmem := List.mem_of_getElem? hentry
    exact List.forall_mem_cons.mpr ⟨hstart _ (List.mem_of_getElem? hplace), ih (htable _ hmem)⟩

theorem Declared.names_ne_nil (h : Declared table start chain) : chain.names ≠ [] := by
  obtain ⟨_, _, _, rfl⟩ := h.exists_cons
  exact List.cons_ne_nil _ _

theorem fullPath_of_leads {d : Descriptor} (h : Leads none chain d) : d.fullPath = chain.path := by
  obtain ⟨earlier, last, rfl, rfl⟩ := h
  exact (describes_describe earlier last).fullPath

theorem exists_leads {chains : List Chain} {ds : List Descriptor}
    (h : List.Forall₂ (Leads path) chains ds) {d : Descriptor} (hd : d ∈ ds) :
    ∃ chain ∈ chains, Leads path chain d := by
  induction h with
  | nil => exact absurd hd List.not_mem_nil
  | cons hfirst _ ih =>
    rcases List.mem_cons.mp hd with rfl | hd
    · exact ⟨_, List.mem_cons_self, hfirst⟩
    · obtain ⟨chain, hchain, hleads⟩ := ih hd
      exact ⟨chain, List.mem_cons_of_mem _ hchain, hleads⟩

theorem exists_led {chains : List Chain} {ds : List Descriptor}
    (h : List.Forall₂ (Leads path) chains ds) (hchain : chain ∈ chains) :
    ∃ d ∈ ds, Leads path chain d := by
  induction h with
  | nil => exact absurd hchain List.not_mem_nil
  | cons hfirst _ ih =>
    rcases List.mem_cons.mp hchain with rfl | hchain
    · exact ⟨_, List.mem_cons_self, hfirst⟩
    · obtain ⟨d, hd, hleads⟩ := ih hchain
      exact ⟨d, List.mem_cons_of_mem _ hd, hleads⟩

end Chain

/-- Where a document is built, nothing is wrong with its table. -/
theorem sound_of_build {table : TypeTable} {schema : DocumentSchema}
    (hbuild : DocumentSchema.build table = .ok schema) : Sound table [] none table.root := by
  have hreported := reportedBy_build table
  rwa [hbuild] at hreported

theorem isBlank_joinPath {name : String} (hname : Text.isBlank name = false)
    (path : Option String) : Text.isBlank (joinPath path name) = false := by
  cases path with
  | none => exact hname
  | some path =>
    rw [Text.isBlank] at hname
    rw [joinPath, Text.isBlank, String.toList_append, List.all_append, hname, Bool.and_false]

/-- No property has a blank name or a blank path. -/
theorem not_blank_of_build {table : TypeTable} {schema : DocumentSchema}
    (hbuild : DocumentSchema.build table = .ok schema) {d : Descriptor}
    (hd : d ∈ schema.descriptors) :
    Text.isBlank d.name = false ∧ Text.isBlank d.fullPath = false := by
  obtain ⟨chains, hmem, -, hleads⟩ := Chain.exists_listing_build hbuild
  obtain ⟨chain, hchain, earlier, last, rfl, rfl⟩ := Chain.exists_leads hleads hd
  obtain ⟨hdeclared, hnodup⟩ := (hmem _).mp hchain
  have hlast : last.property.name ∈ Chain.names (earlier ++ [last]) :=
    List.mem_map_of_mem List.mem_concat_self
  have hname := Chain.not_blank_of_sound (sound_of_build hbuild) hdeclared
    ⟨hnodup, List.disjoint_nil_right _⟩ _ hlast
  exact ⟨hname, isBlank_joinPath hname _⟩

/-- The chains of a document from whose table nothing is wrong, if no name has a dot. -/
theorem exists_named_chains {table : TypeTable} {schema : DocumentSchema}
    (hbuild : DocumentSchema.build table = .ok schema)
    (hdots : ∀ type ∈ table, ∀ property ∈ type.properties, '.' ∉ property.name.toList) :
    ∃ chains : List Chain, (chains.map Chain.path).Nodup ∧
      List.Forall₂ (Chain.Leads none) chains schema.descriptors ∧
      ∀ chain ∈ chains, ∀ name ∈ chain.names, '.' ∉ name.toList ∧ Text.isBlank name = false := by
  have hsound := sound_of_build hbuild
  have hroot : ∀ property ∈ table.root.properties, '.' ∉ property.name.toList := by
    cases table with
    | nil => exact fun _ hproperty => absurd hproperty List.not_mem_nil
    | cons root others => exact hdots root List.mem_cons_self
  obtain ⟨chains, hmem, hordered, hleads⟩ := Chain.exists_listing_build hbuild
  have hnodots : ∀ chain ∈ chains, ∀ name ∈ chain.names, '.' ∉ name.toList := by
    intro chain hchain
    have hsteps := ((hmem chain).mp hchain).1.forall_property hroot hdots
    exact List.forall_mem_map.mpr hsteps
  have hnamed : ∀ chain ∈ chains, ∀ name ∈ chain.names, Text.isBlank name = false := by
    intro chain hchain
    obtain ⟨hdeclared, hnodup⟩ := (hmem chain).mp hchain
    exact Chain.not_blank_of_sound hsound hdeclared ⟨hnodup, List.disjoint_nil_right _⟩
  refine ⟨chains, List.Nodup.map_on ?_ ?_, hleads, fun chain hchain name hname =>
    ⟨hnodots chain hchain name hname, hnamed chain hchain name hname⟩⟩
  · intro chain hchain other hother hpath
    obtain ⟨hdeclared, hnodup⟩ := (hmem chain).mp hchain
    obtain ⟨hdeclared', -⟩ := (hmem other).mp hother
    have hnames : chain.names = other.names :=
      Naming.eq_of_path_eq hdeclared.names_ne_nil hdeclared'.names_ne_nil (hnodots chain hchain)
        (hnodots other hother) hpath
    exact Chain.eq_of_names_eq hsound hdeclared ⟨hnodup, List.disjoint_nil_right _⟩ hdeclared'
      hnames
  · refine hordered.imp ?_
    rintro chain later hlt rfl
    exact List.lt_irrefl _ hlt

end SearchStore.Schema

namespace SearchStore

open Schema

/-- What the paths and the names of a document's properties stand for. A full path stands
for its property, a name for the first property of that name if it is no full path, and a
sort path for the first property at it up to the case of ASCII letters. -/
structure DocumentSchema.Addresses (schema : DocumentSchema) : Prop where
  fullPaths_nodup : (schema.descriptors.map (·.fullPath)).Nodup
  resolve_fullPath : ∀ d ∈ schema.descriptors, schema.resolve d.fullPath = some d
  resolve_eq_none_iff : ∀ name, schema.resolve name = none ↔
    ∀ d ∈ schema.descriptors, d.fullPath ≠ name ∧ d.name ≠ name
  resolve_name : ∀ name, (∀ d ∈ schema.descriptors, d.fullPath ≠ name) → ∀ d,
    schema.resolve name = some d ↔ d.name = name ∧ ∃ before after,
      schema.descriptors = before ++ d :: after ∧ ∀ earlier ∈ before, earlier.name ≠ name
  resolveSort_fullPath : ∀ before d after, schema.descriptors = before ++ d :: after →
    (schema.resolveSort d.fullPath = some d ↔
      ∀ earlier ∈ before, Text.eqIgnoringAsciiCase earlier.fullPath d.fullPath = false)
  wireName_of_nested : ∀ d ∈ schema.descriptors, d.nestedPath ≠ none →
    ∃ path, d.wireNestedPath = some path ∧ d.wireName = path ++ "." ++ Naming.camelCase d.name

namespace DocumentSchema

variable {schema : DocumentSchema} {name : String} {d : Descriptor}

theorem resolve_eq_none : schema.resolve name = none ↔
    ∀ d ∈ schema.descriptors, d.fullPath ≠ name ∧ d.name ≠ name := by
  simp only [resolve, Option.or_eq_none_iff, List.find?_eq_none, decide_eq_true_eq, ← forall_and]

/-- A blank name stands for nothing. -/
theorem resolve_of_isBlank {table : TypeTable} (hbuild : build table = .ok schema)
    (hname : Text.isBlank name = true) : schema.resolve name = none := by
  refine resolve_eq_none.mpr fun d hd => ?_
  obtain ⟨hdName, hdPath⟩ := not_blank_of_build hbuild hd
  refine ⟨?_, ?_⟩
  · rintro rfl
    exact nomatch hname.symm.trans hdPath
  · rintro rfl
    exact nomatch hname.symm.trans hdName

/-- A name that is no full path stands for the first property of that name. -/
theorem resolve_of_ne_fullPath (h : ∀ d ∈ schema.descriptors, d.fullPath ≠ name) :
    schema.resolve name = some d ↔ d.name = name ∧ ∃ before after,
      schema.descriptors = before ++ d :: after ∧ ∀ earlier ∈ before, earlier.name ≠ name := by
  have hnone : schema.descriptors.find? (·.fullPath = name) = none :=
    List.find?_eq_none.mpr (by simpa using h)
  rw [resolve, hnone, Option.none_or, List.find?_eq_some_iff_append]
  simp

theorem resolve_of_nodup {before after : List Descriptor}
    (hnodup : (schema.descriptors.map (·.fullPath)).Nodup)
    (h : schema.descriptors = before ++ d :: after) : schema.resolve d.fullPath = some d := by
  rw [h, List.map_append, List.map_cons] at hnodup
  have hearlier : ∀ earlier ∈ before, earlier.fullPath ≠ d.fullPath := by
    intro earlier hearlier hsame
    exact List.disjoint_of_nodup_append hnodup (List.mem_map_of_mem hearlier)
      (hsame ▸ List.mem_cons_self)
  have hfound : schema.descriptors.find? (·.fullPath = d.fullPath) = some d := by
    rw [h, List.find?_append_cons_eq_some_iff (by simp) fun hmem => hearlier d hmem rfl]
    simpa using hearlier
  rw [resolve, hfound, Option.some_or]

theorem resolveSort_of_nodup {before after : List Descriptor}
    (hnodup : (schema.descriptors.map (·.fullPath)).Nodup)
    (h : schema.descriptors = before ++ d :: after) :
    schema.resolveSort d.fullPath = some d ↔
      ∀ earlier ∈ before, Text.eqIgnoringAsciiCase earlier.fullPath d.fullPath = false := by
  have hself : Text.eqIgnoringAsciiCase d.fullPath d.fullPath = true := decide_eq_true rfl
  have hds := hnodup.of_map
  rw [h] at hds
  rw [resolveSort, h]
  exact List.find?_append_cons_eq_some_iff hself fun hmem =>
    List.disjoint_of_nodup_append hds hmem List.mem_cons_self

end DocumentSchema

/-- The path of a property in an object is that of the object, a dot and its name. -/
theorem Schema.Chain.Describes.wireName_of_nested {earlier : Chain} {last : Step}
    {d : Descriptor} (h : Chain.Describes earlier last d) (hnested : d.nestedPath ≠ none)
    (hnames : ∀ name ∈ (earlier ++ [last]).names,
      '.' ∉ name.toList ∧ Text.isBlank name = false) :
    ∃ path, d.wireNestedPath = some path ∧
      d.wireName = path ++ "." ++ Naming.camelCase d.name := by
  have hne : earlier ≠ [] := by
    rintro rfl
    exact hnested h.nestedPath
  have hwhole : (earlier ++ [last]).names = earlier.names ++ [d.name] := by
    rw [Chain.names, List.map_append, List.map_singleton, h.name]
    rfl
  rw [hwhole] at hnames
  have hearlier := (List.forall_mem_append.mp hnames).1
  have hnil : earlier.names ≠ [] := by simpa [Chain.names] using hne
  have hcamel : Naming.camelPath earlier.path =
      ".".intercalate (earlier.names.map Naming.camelCase) :=
    Naming.camelPath_path hnil (fun name h => (hearlier name h).1) fun name h =>
      (hearlier name h).2
  have hfilled : Naming.camelPath earlier.path ≠ "" := by
    rw [hcamel]
    exact Naming.intercalate_ne_empty (by simpa using hnil)
      (List.forall_mem_map.mpr fun name h => Naming.camelCase_ne_empty (hearlier name h).2)
  refine ⟨Naming.camelPath earlier.path, ?_, ?_⟩
  · rw [Descriptor.wireNestedPath, h.nestedPath, if_neg hne, Option.map_some, Option.filter_some,
      if_pos (decide_eq_true hfilled)]
  · rw [Descriptor.wireName, h.fullPath, Chain.path, ← Chain.names, hwhole,
      Naming.camelPath_path (by simp) (fun name h => (hnames name h).1) fun name h =>
        (hnames name h).2,
      List.map_append, List.map_singleton, hcamel,
      String.intercalate_append_of_ne_nil (by simpa using hnil) (List.cons_ne_nil _ _),
      String.intercalate_singleton]

/-- In a table whose names have no dots a path stands for one property. -/
theorem build_addresses (table : TypeTable) (schema : DocumentSchema)
    (hbuild : DocumentSchema.build table = .ok schema)
    (hdots : ∀ type ∈ table, ∀ property ∈ type.properties, '.' ∉ property.name.toList) :
    schema.Addresses := by
  obtain ⟨chains, hnodup, hleads, hnames⟩ := exists_named_chains hbuild hdots
  have hpaths : chains.map Chain.path = schema.descriptors.map (·.fullPath) :=
    List.map_eq_map_iff_forall₂.mpr (hleads.imp fun chain d h => (Chain.fullPath_of_leads h).symm)
  rw [hpaths] at hnodup
  exact {
    fullPaths_nodup := hnodup
    resolve_fullPath := fun d hd => by
      obtain ⟨before, after, h⟩ := List.append_of_mem hd
      exact DocumentSchema.resolve_of_nodup hnodup h
    resolve_eq_none_iff := fun name => DocumentSchema.resolve_eq_none
    resolve_name := fun name h d => DocumentSchema.resolve_of_ne_fullPath h
    resolveSort_fullPath := fun before d after h => DocumentSchema.resolveSort_of_nodup hnodup h
    wireName_of_nested := fun d hd hnested => by
      obtain ⟨_, hchain, earlier, last, rfl, rfl⟩ := Chain.exists_leads hleads hd
      exact (Chain.describes_describe earlier last).wireName_of_nested hnested
        (hnames _ hchain) }

/-- A customer has a name, and so has its order, further on. -/
def named : TypeTable :=
  [⟨"Order", [⟨"Customer", .object 1, none⟩, ⟨"Name", .string, none⟩]⟩,
    ⟨"Customer", [⟨"Name", .string, none⟩]⟩]

def namedDescriptors : List Descriptor :=
  [describe "Order" none ⟨"Customer", .object 1, none⟩,
    describe "Customer" (some "Customer") ⟨"Name", .string, none⟩,
    describe "Order" none ⟨"Name", .string, none⟩]

theorem walkType_customer :
    walkType named ["Order"] (some "Customer") ⟨⟨"Customer", [⟨"Name", .string, none⟩]⟩,
        List.mem_cons_of_mem _ List.mem_cons_self, by decide⟩ =
      .ok [describe "Customer" (some "Customer") ⟨"Name", .string, none⟩] := by
  have hname : checkProperty "Customer" (some "Customer") [] ⟨"Name", .string, none⟩ = .ok () :=
    checkProperty_of_named (by decide +kernel) (by decide)
  rw [walkType_of_named _ (by decide +kernel), walkProperties_cons_of_none hname rfl,
    walkProperties_nil]
  rfl

theorem build_named : DocumentSchema.build named = .ok ⟨"Order", namedDescriptors⟩ := by
  have hcustomer : checkProperty "Order" none [] ⟨"Customer", .object 1, none⟩ = .ok () :=
    checkProperty_of_named (by decide +kernel) (by decide)
  have hname : checkProperty "Order" none ["Customer"] ⟨"Name", .string, none⟩ = .ok () :=
    checkProperty_of_named (by decide +kernel) (by decide)
  have hwalk : descriptors named = .ok namedDescriptors := by
    have hroot : descriptors named = walkProperties named ["Order"] none "Order" []
        [⟨"Customer", .object 1, none⟩, ⟨"Name", .string, none⟩] :=
      walkType_of_named _ (by decide +kernel)
    rw [hroot, walkProperties_cons_of_some hcustomer rfl rfl (by decide),
      walkProperties_cons_of_none hname rfl, walkProperties_nil]
    simp only [describe, joinPath, walkType_customer]
    rfl
  rw [DocumentSchema.build, hwalk]
  rfl

/-- The name of an order is found by its path, though the name of its customer comes first. -/
theorem build_addresses_named :
    ∃ schema, DocumentSchema.build named = .ok schema ∧ schema.Addresses ∧
      schema.descriptors.map (·.fullPath) = ["Customer", "Customer.Name", "Name"] ∧
      schema.resolve "Name" = some (describe "Order" none ⟨"Name", .string, none⟩) := by
  have haddresses := build_addresses named _ build_named (by decide +kernel)
  refine ⟨_, build_named, haddresses, by decide +kernel, ?_⟩
  exact haddresses.resolve_fullPath _ (List.mem_cons_of_mem _ (List.mem_cons_of_mem _
    List.mem_cons_self))

end SearchStore
