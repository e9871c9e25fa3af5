import Mathlib.Data.List.Dedup
import Mathlib.Data.List.Perm.Subperm
import SearchStore.Proofs.Schema.Flaws
import SearchStore.Proofs.Schema.Paths

/-!
How deep the walk through the types of a document goes. Here the walk is written down with
what it keeps while it goes: the names of the types on the way are on a stack. A type puts
its name on the stack before its properties are looked at and takes it off after them, and a
type whose name is on the stack is not entered. The stack has room for some names only, and
without room for another one the walk would break off.

The names on the stack are pairwise different, whether or not types lead back to themselves.
So there is always room if there is room for each name of the table, and the walk comes to
the same with the stack as without it.
-/

namespace SearchStore

def TypeTable.distinctNames (table : TypeTable) : List String := (table.map (·.name)).dedup

namespace Schema

/-- A type that is entered: how deep, counted from the document on, and with which names on
the stack. -/
structure Entry where
  depth : Nat
  stack : List String
  type : TypeSchema

/-- The names of the types on the way, and all types that have been entered, the last one
first. -/
structure Trail where
  stack : List String := []
  entered : List Entry := []

inductive Halt where
  | flaw (error : SchemaError)
  /-- There is no room on the stack. -/
  | overflow

abbrev Trailed := ExceptT Halt (StateM Trail)

namespace Trailed

variable {α β : Type}

def ofExcept (result : Except SchemaError α) : Trailed α := fun trail =>
  (result.mapError .flaw, trail)

def record (depth : Nat) (type : TypeSchema) : Trailed Unit :=
  modify fun trail => { trail with entered := ⟨depth, trail.stack, type⟩ :: trail.entered }

def push (name : String) : Trailed Unit :=
  modify fun trail => { trail with stack := name :: trail.stack }

def pop : Trailed Unit :=
  modify fun trail => { trail with stack := trail.stack.tail }

theorem run_bind (walk : Trailed α) (next : α → Trailed β) (trail : Trail) :
    (walk >>= next) trail =
      match walk trail with
      | (.ok a, later) => next a later
      | (.error halt, later) => (.error halt, later) := by
  simp only [bind, ExceptT.bind, ExceptT.mk, StateT.bind, ExceptT.bindCont]
  cases walk trail with
  | mk outcome later => cases outcome <;> rfl

/-- What lies under a property. A type whose name is on the stack is passed over. -/
def walkBelow (table : TypeTable) (enter : String → TypeSchema → Trailed (List Descriptor))
    (path : String) (property : PropertySchema) : Trailed (List Descriptor) := do
  match property.held? table with
  | none => return []
  | some child => if child.name ∈ (← get).stack then return [] else enter path child

def walkProperties (table : TypeTable) (enter : String → TypeSchema → Trailed (List Descriptor))
    (path : Option String) (typeName : String) :
    (earlier : List String) → List PropertySchema → Trailed (List Descriptor)
  | _, [] => return []
  | earlier, property :: rest => do
    ofExcept (checkProperty typeName path earlier property)
    let below ← walkBelow table enter (joinPath path property.name) property
    let after ← walkProperties table enter path typeName (property.name :: earlier) rest
    return describe typeName path property :: below ++ after

def walkType (table : TypeTable) (room depth : Nat) (path : Option String) (type : TypeSchema) :
    Trailed (List Descriptor) := do
  record depth type
  if Text.isBlank type.name then
    ofExcept (.error (.missingTypeName (path.getD "<root>")))
  else
    match room with
    | 0 => throw .overflow
    | room + 1 =>
      push type.name
      let ds ← walkProperties table (fun path child => walkType table room (depth + 1) path child)
        path type.name [] type.properties
      pop
      return ds

end Trailed

variable {table : TypeTable}

theorem name_mem_distinctNames {type : TypeSchema} (h : type ∈ table) :
    type.name ∈ table.distinctNames :=
  List.mem_dedup.mpr (List.mem_map_of_mem h)

theorem length_le_distinctNames {names : List String} (hnodup : names.Nodup)
    (hnames : ∀ name ∈ names, name ∈ table.distinctNames) :
    names.length ≤ table.distinctNames.length :=
  (List.subperm_of_subset hnodup hnames).length_le

/-- A stack of different names of the table, none of them blank. -/
structure IsWay (table : TypeTable) (stack : List String) : Prop where
  nodup : stack.Nodup
  known : ∀ name ∈ stack, name ∈ table.distinctNames
  named : ∀ name ∈ stack, Text.isBlank name = false

theorem IsWay.cons {stack : List String} (hway : IsWay table stack) (type : Unvisited table stack)
    (hnamed : Text.isBlank type.val.name = false) : IsWay table (type.val.name :: stack) where
  nodup := List.nodup_cons.mpr ⟨type.property.2, hway.nodup⟩
  known := List.forall_mem_cons.mpr ⟨name_mem_distinctNames type.property.1, hway.known⟩
  named := List.forall_mem_cons.mpr ⟨hnamed, hway.named⟩

theorem IsWay.empty_not_mem {stack : List String} (hway : IsWay table stack) : "" ∉ stack :=
  fun hmem => absurd (hway.named _ hmem) (by decide)

structure Entry.Sound (table : TypeTable) (entry : Entry) : Prop where
  depth_eq : entry.depth = entry.stack.length + 1
  way : IsWay table entry.stack
  new : entry.type.name ∉ entry.stack
  known : entry.type ∈ table ∨ Text.isBlank entry.type.name = true

/-- What a part of the walk leaves behind that comes to a result. Where it succeeds the stack
is as it was; a type without a name is entered only to fail. -/
structure Outcome {α : Type} (table : TypeTable) (result : Except SchemaError α) (trail : Trail)
    (entered : List Entry) (ended : Except Halt α × Trail) : Prop where
  result_eq : ended.1 = result.mapError .flaw
  entered_eq : ended.2.entered = entered ++ trail.entered
  stack_eq : ∀ a, result = .ok a → ended.2.stack = trail.stack
  sound : ∀ entry ∈ entered, entry.Sound table
  unnamed : ∀ entry ∈ entered, Text.isBlank entry.type.name = true →
    ∃ path, result = .error (.missingTypeName path)

def Follows {α : Type} (table : TypeTable) (stack : List String) (walk : Trailed α)
    (result : Except SchemaError α) : Prop :=
  ∀ trail : Trail, trail.stack = stack → ∃ entered, Outcome table result trail entered (walk trail)

namespace Follows

variable {α β : Type} {stack : List String} {walk : Trailed α} {result : Except SchemaError α}

theorem ofExcept (result : Except SchemaError α) :
    Follows table stack (Trailed.ofExcept result) result := by
  intro trail _
  exact ⟨[], rfl, rfl, fun _ _ => rfl, nofun, nofun⟩

theorem pure (a : α) : Follows table stack (Pure.pure a) (.ok a) := ofExcept (.ok a)

theorem bind (h : Follows table stack walk result) {next : α → Trailed β}
    {after : α → Except SchemaError β}
    (hnext : ∀ a, result = .ok a → Follows table stack (next a) (after a)) :
    Follows table stack (walk >>= next) (result >>= after) := by
  intro trail htrail
  obtain ⟨entered, hwalk⟩ := h trail htrail
  rw [Trailed.run_bind]
  generalize walk trail = ended at hwalk
  obtain ⟨outcome, later⟩ := ended
  obtain ⟨rfl, hentered, hstack, hsound, hunnamed⟩ := hwalk
  cases result with
  | error error =>
    refine ⟨entered, rfl, hentered, nofun, hsound, fun entry hentry hblank => ?_⟩
    obtain ⟨path, hfailed⟩ := hunnamed entry hentry hblank
    exact ⟨path, congrArg (· >>= after) hfailed⟩
  | ok a =>
    obtain ⟨more, hafter⟩ := hnext a rfl later ((hstack a rfl).trans htrail)
    refine ⟨more ++ entered, hafter.result_eq, ?_, ?_, ?_, ?_⟩
    · rw [List.append_assoc, ← hentered]
      exact hafter.entered_eq
    · exact fun b hb => (hafter.stack_eq b hb).trans (hstack a rfl)
    · exact List.forall_mem_append.mpr ⟨hafter.sound, hsound⟩
    · intro entry hentry hblank
      rcases List.mem_append.mp hentry with hmore | hbefore
      · exact hafter.unnamed entry hmore hblank
      · obtain ⟨path, hfailed⟩ := hunnamed entry hbefore hblank
        exact nomatch hfailed

/-- What is looked up is what is on the stack. -/
theorem looking {next : Trail → Trailed α}
    (h : ∀ trail, trail.stack = stack → Follows table stack (next trail) result) :
    Follows table stack (do next (← get)) result := fun trail htrail => h trail htrail trail htrail

/-- A name that is put on the stack for a part of the walk is taken off after it. -/
theorem pushed {name : String} (h : Follows table (name :: stack) walk result) :
    Follows table stack (do Trailed.push name; let a ← walk; Trailed.pop; return a) result := by
  intro trail htrail
  obtain ⟨entered, hwalk⟩ := h { trail with stack := name :: trail.stack } (by rw [htrail])
  rw [Trailed.run_bind]
  change ∃ entered, Outcome table result trail entered
    ((do let a ← walk; Trailed.pop; return a) { trail with stack := name :: trail.stack })
  rw [Trailed.run_bind]
  generalize walk { trail with stack := name :: trail.stack } = ended at hwalk
  obtain ⟨outcome, later⟩ := ended
  obtain ⟨rfl, hentered, hstack, hsound, hunnamed⟩ := hwalk
  refine ⟨entered, ?_⟩
  cases result with
  | error error => exact ⟨rfl, hentered, nofun, hsound, hunnamed⟩
  | ok a => exact ⟨rfl, hentered, fun _ _ => congrArg List.tail (hstack a rfl), hsound, hunnamed⟩

/-- A type is put on record before its part of the walk. -/
theorem recorded {depth : Nat} {type : TypeSchema} (h : Follows table stack walk result)
    (hsound : Entry.Sound table ⟨depth, stack, type⟩)
    (hunnamed : Text.isBlank type.name = true → ∃ path, result = .error (.missingTypeName path)) :
    Follows table stack (do Trailed.record depth type; walk) result := by
  intro trail htrail
  obtain ⟨entered, hwalk⟩ :=
    h { trail with entered := ⟨depth, trail.stack, type⟩ :: trail.entered } htrail
  rw [Trailed.run_bind]
  refine ⟨entered ++ [⟨depth, stack, type⟩], hwalk.result_eq, ?_, hwalk.stack_eq, ?_, ?_⟩
  · rw [List.append_assoc, ← htrail]
    exact hwalk.entered_eq
  · exact List.forall_mem_append.mpr ⟨hwalk.sound, List.forall_mem_singleton.mpr hsound⟩
  · exact List.forall_mem_append.mpr ⟨hwalk.unnamed, List.forall_mem_singleton.mpr hunnamed⟩

end Follows

/-- How a type is entered that is not on the stack, and one that is not in the table. -/
structure Enters (table : TypeTable) (stack : List String)
    (enter : String → TypeSchema → Trailed (List Descriptor)) : Prop where
  unvisited : ∀ path (child : Unvisited table stack),
    Follows table stack (enter path child.val) (walkType table stack (some path) child)
  unnamed : ∀ path, Follows table stack (enter path {}) (.error (.missingTypeName path))

section Walk

variable {stack : List String} {enter : String → TypeSchema → Trailed (List Descriptor)}
  {path : Option String}

theorem follows_walkBelow (hway : IsWay table stack) (henters : Enters table stack enter)
    (place : String) (property : PropertySchema) :
    Follows table stack (Trailed.walkBelow table enter place property)
      (walkBelow table stack place property) := by
  cases hobject : property.type.element? with
  | none =>
    have hheld : property.held? table = none := by
      rw [PropertySchema.held?, hobject, Option.map_none]
    rw [walkBelow_of_none hobject, Trailed.walkBelow, hheld]
    exact .pure []
  | some entry =>
    have hheld : property.held? table = some (table.entry entry) := by
      rw [PropertySchema.held?, hobject, Option.map_some]
    rw [Trailed.walkBelow, hheld]
    refine .looking fun trail htrail => ?_
    rw [htrail]
    cases hfound : table[entry]? with
    | none =>
      have hentry : table.entry entry = {} := by
        rw [TypeTable.entry, hfound, Option.getD_none]
      rw [walkBelow_of_dangling hobject hfound, hentry, if_neg hway.empty_not_mem]
      exact henters.unnamed place
    | some child =>
      have hentry : table.entry entry = child := by
        rw [TypeTable.entry, hfound, Option.getD_some]
      rw [walkBelow_of_child hobject hfound, hentry]
      split
      · exact .pure []
      · next hnew => exact henters.unvisited place ⟨child, List.mem_of_getElem? hfound, hnew⟩

theorem follows_walkProperties (path : Option String) (hway : IsWay table stack)
    (henters : Enters table stack enter) (typeName : String) (properties : List PropertySchema)
    (earlier : List String) :
    Follows table stack (Trailed.walkProperties table enter path typeName earlier properties)
      (walkProperties table stack path typeName earlier properties) := by
  induction properties generalizing earlier with
  | nil =>
    rw [walkProperties_nil]
    exact .pure []
  | cons property rest ih =>
    rw [walkProperties_cons]
    exact (Follows.ofExcept _).bind fun _ _ =>
      (follows_walkBelow hway henters _ property).bind fun _ _ => (ih _).bind fun _ _ => .pure _

theorem follows_walkType_of_isBlank (room : Nat) (type : TypeSchema) (hway : IsWay table stack)
    (hnew : type.name ∉ stack) (hblank : Text.isBlank type.name = true) :
    Follows table stack (Trailed.walkType table room (stack.length + 1) path type)
      (.error (.missingTypeName (path.getD "<root>"))) := by
  rw [Trailed.walkType.eq_def, if_pos hblank]
  exact (Follows.ofExcept _).recorded ⟨rfl, hway, hnew, .inr hblank⟩ fun _ => ⟨_, rfl⟩

/-- A type is entered with what comes of it without a stack, if there is room for every name. -/
theorem follows_walkType (room : Nat) (type : Unvisited table stack) (path : Option String)
    (hway : IsWay table stack) (hroom : table.distinctNames.length ≤ stack.length + room) :
    Follows table stack (Trailed.walkType table room (stack.length + 1) path type.val)
      (walkType table stack path type) := by
  induction room generalizing stack path with
  | zero =>
    cases hblank : Text.isBlank type.val.name with
    | true =>
      rw [walkType, if_pos hblank]
      exact follows_walkType_of_isBlank 0 type.val hway type.property.2 hblank
    | false =>
      have hfull := length_le_distinctNames (hway.cons type hblank).nodup
        (hway.cons type hblank).known
      rw [List.length_cons] at hfull
      omega
  | succ room ih =>
    cases hblank : Text.isBlank type.val.name with
    | true =>
      rw [walkType, if_pos hblank]
      exact follows_walkType_of_isBlank (room + 1) type.val hway type.property.2 hblank
    | false =>
      have hnamed : ¬ Text.isBlank type.val.name = true := by
        rw [hblank]
        exact Bool.false_ne_true
      have hnext : IsWay table (type.val.name :: stack) := hway.cons type hblank
      have hleft : table.distinctNames.length ≤ (type.val.name :: stack).length + room := by
        rw [List.length_cons]
        omega
      have henters : Enters table (type.val.name :: stack) fun path child =>
          Trailed.walkType table room (stack.length + 1 + 1) path child :=
        { unvisited := fun path child => ih child (some path) hnext hleft
          unnamed := fun path => follows_walkType_of_isBlank room {} hnext hnext.empty_not_mem rfl }
      have hproperties := follows_walkProperties path hnext henters type.val.name
        type.val.properties []
      rw [walkType_of_named type hblank, Trailed.walkType, if_neg hnamed]
      exact hproperties.pushed.recorded ⟨rfl, hway, type.property.2, .inl type.property.1⟩
        fun hunnamed => absurd hunnamed hnamed

/-- The walk from the document. -/
theorem follows_descriptors (room : Nat) (hroom : table.distinctNames.length ≤ room) :
    Follows table [] (Trailed.walkType table room 1 none table.root) (descriptors table) := by
  have hstart : IsWay table [] := ⟨.nil, nofun, nofun⟩
  cases table with
  | nil => exact follows_walkType_of_isBlank room {} hstart List.not_mem_nil rfl
  | cons root others =>
    have hroot : root ∈ root :: others := List.mem_cons_self
    exact follows_walkType room ⟨root, hroot, List.not_mem_nil⟩ none hstart (by simpa using hroom)

end Walk

namespace Chain

/-- The types on a chain are types of the table. -/
theorem Declared.typeNames_mem {start : TypeSchema} {chain : Chain}
    (h : Declared table start chain) (hstart : start ∈ table) :
    ∀ name ∈ chain.typeNames, name ∈ table.distinctNames := by
  induction h with
  | last hplace => exact List.forall_mem_singleton.mpr (name_mem_distinctNames hstart)
  | next hplace hchild hrest ih =>
    obtain ⟨entry, -, hentry⟩ := Option.bind_eq_some_iff.mp (holds_iff.mp hchild)
    exact List.forall_mem_cons.mpr ⟨name_mem_distinctNames hstart, ih (List.mem_of_getElem? hentry)⟩

/-- A chain on which no type comes up twice has no more properties than there are names. -/
theorem Declared.length_le {start : TypeSchema} {chain : Chain}
    (h : Declared table start chain) (hstart : start ∈ table) (hnodup : chain.typeNames.Nodup) :
    chain.length ≤ table.distinctNames.length := by
  have hnames := length_le_distinctNames hnodup (h.typeNames_mem hstart)
  rwa [typeNames, List.length_map] at hnames

end Chain

/-- Behind each property of a document is a chain from its type that is no longer than there
are names. -/
theorem exists_chain_of_descriptors {ds : List Descriptor} (h : descriptors table = .ok ds)
    {d : Descriptor} (hd : d ∈ ds) :
    ∃ earlier last, Chain.Declared table table.root (earlier ++ [last]) ∧
      Chain.Describes earlier last d ∧
      (earlier ++ [last]).length ≤ table.distinctNames.length := by
  cases table with
  | nil => exact nomatch h
  | cons root others =>
    have hbuild : DocumentSchema.build (root :: others) = .ok ⟨root.name, ds⟩ := by
      rw [DocumentSchema.build, h]
      rfl
    obtain ⟨chains, hmem, -, hleads⟩ := Chain.exists_listing_build hbuild
    obtain ⟨chain, hchain, earlier, last, rfl, rfl⟩ := Chain.exists_leads hleads hd
    obtain ⟨hdeclared, hnodup⟩ := (hmem _).mp hchain
    exact ⟨earlier, last, hdeclared, Chain.describes_describe earlier last,
      hdeclared.length_le List.mem_cons_self hnodup⟩

end Schema

open Schema

/-- The walk with its stack comes to what the walk without it comes to, on every table, and
never breaks off if there is room for each name of the table once. Whenever a type is entered,
the names on the stack and its own are pairwise different and the names on the stack are names
of the table, so no type of the table is entered deeper than there are names. A type without a
name is entered only to end the walk. Where the walk succeeds, the stack is empty again, and
the chain of properties behind each descriptor is no longer than there are names. -/
theorem walk_depth_le (table : TypeTable) (spare : Nat) :
    let ended := Trailed.walkType table (table.distinctNames.length + spare) 1 none table.root {}
    ended.1 = (descriptors table).mapError .flaw ∧
    (∀ entry ∈ ended.2.entered,
      entry.depth = entry.stack.length + 1 ∧
      (entry.type.name :: entry.stack).Nodup ∧
      (∀ name ∈ entry.stack, name ∈ table.distinctNames ∧ Text.isBlank name = false) ∧
      (entry.type ∈ table → entry.depth ≤ table.distinctNames.length) ∧
      (entry.type ∈ table ∨ Text.isBlank entry.type.name = true) ∧
      (Text.isBlank entry.type.name = true →
        ∃ path, descriptors table = .error (.missingTypeName path))) ∧
    ∀ ds, descriptors table = .ok ds → ended.2.stack = [] ∧
      ∀ d ∈ ds, ∃ earlier last, Chain.Declared table table.root (earlier ++ [last]) ∧
        Chain.Describes earlier last d ∧
        (earlier ++ [last]).length ≤ table.distinctNames.length := by
  intro ended
  obtain ⟨entered, hresult, hentered, hstack, hsound, hunnamed⟩ :=
    follows_descriptors (table.distinctNames.length + spare) (Nat.le_add_right _ _) {} rfl
  rw [List.append_nil] at hentered
  refine ⟨hresult, fun entry hentry => ?_, fun ds hds => ⟨hstack ds hds, fun d hd =>
    exists_chain_of_descriptors hds hd⟩⟩
  rw [hentered] at hentry
  obtain ⟨hdepth, hway, hnew, hknown⟩ := hsound entry hentry
  have hnodup : (entry.type.name :: entry.stack).Nodup := List.nodup_cons.mpr ⟨hnew, hway.nodup⟩
  have hdeep (hmem : entry.type ∈ table) : entry.depth ≤ table.distinctNames.length := by
    rw [hdepth, ← List.length_cons]
    exact length_le_distinctNames hnodup
      (List.forall_mem_cons.mpr ⟨name_mem_distinctNames hmem, hway.known⟩)
  exact ⟨hdepth, hnodup, fun name hname => ⟨hway.known name hname, hway.named name hname⟩, hdeep,
    hknown, hunnamed entry hentry⟩

/-- An order and its addresses lead to each other. Two names are enough room for the walk, and
no chain is longer than that. -/
theorem walk_depth_le_linked :
    ∃ ds, descriptors linked = .ok ds ∧ ds.length = 6 ∧
      (Trailed.walkType linked 2 1 none linked.root {}).1 = .ok ds ∧
      ∀ d ∈ ds, ∃ earlier last, Chain.Declared linked linked.root (earlier ++ [last]) ∧
        Chain.Describes earlier last d ∧ (earlier ++ [last]).length ≤ 2 := by
  have hbuild := build_linked
  unfold DocumentSchema.build at hbuild
  cases hwalk : descriptors linked with
  | error error =>
    rw [hwalk] at hbuild
    exact nomatch hbuild
  | ok ds =>
    rw [hwalk] at hbuild
    obtain ⟨-, rfl⟩ := DocumentSchema.mk.inj (Except.ok.inj hbuild)
    obtain ⟨hresult, -, hchains⟩ := walk_depth_le linked 0
    rw [hwalk] at hresult
    exact ⟨_, rfl, rfl, hresult, (hchains _ hwalk).2⟩

end SearchStore
