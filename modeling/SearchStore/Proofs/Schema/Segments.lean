import SearchStore.Proofs.Text.LowerCase
import SearchStore.Schema.Naming

/-!
Paths of names. A path is split at its dots, so names without dots are the segments of
their path and can be read off it again. If none of them is blank, none is left out of
the path that documents carry.

Of any other path something is left exactly if it holds a character that is neither a dot
nor white space, and what is left of a path and another one under it is joined by a dot.
-/

namespace SearchStore.Naming

/-- A path is split at its dots. -/
theorem segments_eq_splitOn (path : List Char) : segments path = path.splitOn '.' := by
  induction path with
  | nil => rfl
  | cons c rest ih =>
    have hne : rest.splitOn '.' ≠ [] := List.splitOnP_ne_nil _ rest
    rw [List.splitOn, List.splitOnP_cons_eq_if_modifyHead, ← List.splitOn, segments, ih]
    by_cases hdot : c = '.'
    · rw [if_pos hdot, if_pos (beq_iff_eq.mpr hdot)]
    · rw [if_neg hdot, if_neg (by simpa using hdot)]
      cases hrest : rest.splitOn '.' with
      | nil => exact absurd hrest hne
      | cons piece pieces => rfl

/-- Names without dots are the segments of their path. -/
theorem segments_intercalate {names : List (List Char)} (hne : names ≠ [])
    (hdots : ∀ name ∈ names, '.' ∉ name) : segments (['.'].intercalate names) = names := by
  rw [segments_eq_splitOn]
  exact List.splitOn_intercalate '.' hdots hne

variable {names others : List String}

theorem segments_path (hne : names ≠ []) (hdots : ∀ name ∈ names, '.' ∉ name.toList) :
    segments (".".intercalate names).toList = names.map String.toList := by
  rw [String.toList_intercalate]
  exact segments_intercalate (by simpa using hne) (by simpa using hdots)

/-- Names without dots are told by their path. -/
theorem eq_of_path_eq (hne : names ≠ []) (hne' : others ≠ [])
    (hdots : ∀ name ∈ names, '.' ∉ name.toList) (hdots' : ∀ name ∈ others, '.' ∉ name.toList)
    (h : ".".intercalate names = ".".intercalate others) : names = others := by
  have hsegments := segments_path hne hdots
  rw [h, segments_path hne' hdots'] at hsegments
  exact (List.map_inj_right fun _ _ => String.toList_inj.mp).mp hsegments.symm

theorem camelCase_ne_empty {name : String} (h : Text.isBlank name = false) :
    camelCase name ≠ "" := by
  intro hempty
  have hchars : camelChars name.toList = [] := by
    simpa [camelCase] using congrArg String.toList hempty
  cases hname : name.toList with
  | nil => simp [Text.isBlank, hname] at h
  | cons c rest =>
    rw [hname, camelChars] at hchars
    exact Text.lowerChar_ne_nil c (List.append_eq_nil_iff.mp hchars).1

theorem intercalate_ne_empty (hne : names ≠ []) (hnamed : ∀ name ∈ names, name ≠ "") :
    ".".intercalate names ≠ "" := by
  cases names with
  | nil => exact absurd rfl hne
  | cons name rest =>
    have hname : name ≠ "" := hnamed name List.mem_cons_self
    cases rest with
    | nil => rwa [String.intercalate_singleton]
    | cons next others =>
      rw [String.intercalate_cons_cons, ne_eq, String.append_eq_empty_iff,
        String.append_eq_empty_iff]
      exact fun h => hname h.1.1

/-- Names that are neither blank nor dotted are camel-cased one by one. -/
theorem camelPath_path (hne : names ≠ []) (hdots : ∀ name ∈ names, '.' ∉ name.toList)
    (hnamed : ∀ name ∈ names, Text.isBlank name = false) :
    camelPath (".".intercalate names) = ".".intercalate (names.map camelCase) := by
  have hkept : ((names.map String.toList).filter fun segment => !segment.all Text.isWhite) =
      names.map String.toList := by
    rw [List.filter_eq_self]
    intro segment hsegment
    obtain ⟨name, hname, rfl⟩ := List.mem_map.mp hsegment
    exact congrArg (!·) (hnamed name hname)
  have hcamel : names.map (camelChars ∘ String.toList) =
      names.map (String.toList ∘ camelCase) := by
    simp [Function.comp_def, camelCase]
  rw [camelPath, camelSegments, segments_path hne hdots, hkept, List.map_map, hcamel,
    ← List.map_map, ← String.toList_inj, String.toList_intercalate, String.toList_ofList]
  rfl

/-! Paths of any texts -/

/-- The segments of a path and of another one under it. -/
theorem segments_append (first second : List Char) :
    segments (first ++ '.' :: second) = segments first ++ segments second := by
  simp only [segments_eq_splitOn]
  exact List.splitOn_append_cons_self first second

/-- Two lists of segments, one after the other, are joined by a dot. -/
theorem intercalate_append {first second : List (List Char)} (hfirst : first ≠ [])
    (hsecond : second ≠ []) :
    ['.'].intercalate (first ++ second) =
      ['.'].intercalate first ++ ['.'] ++ ['.'].intercalate second := by
  induction first with
  | nil => exact absurd rfl hfirst
  | cons segment rest ih =>
    cases rest with
    | nil =>
      rw [List.singleton_append, List.intercalate_cons_of_ne_nil hsecond,
        List.intercalate_singleton]
    | cons next others =>
      rw [List.cons_append, List.intercalate_cons_of_ne_nil (by simp), ih (List.cons_ne_nil _ _),
        List.intercalate_cons_of_ne_nil (List.cons_ne_nil _ _)]
      simp only [List.append_assoc]

theorem camelSegments_append (first second : List Char) :
    camelSegments (first ++ '.' :: second) = camelSegments first ++ camelSegments second := by
  rw [camelSegments, segments_append, List.filter_append, List.map_append]
  rfl

/-- Whether a text holds a character that is neither a dot nor white space. -/
def IsNamed (text : String) : Prop := ∃ c ∈ text.toList, c ≠ '.' ∧ Text.isWhite c = false

theorem all_segments_isWhite_iff (path : List Char) :
    (∀ segment ∈ segments path, segment.all Text.isWhite = true) ↔
      ∀ c ∈ path, c ≠ '.' → Text.isWhite c = true := by
  induction path with
  | nil => simp [segments]
  | cons c rest ih =>
    rw [segments, List.forall_mem_cons, ← ih]
    by_cases hdot : c = '.'
    · simp [hdot]
    · have hrest : segments rest ≠ [] := segments_eq_splitOn rest ▸ List.splitOn_ne_nil '.' rest
      obtain ⟨piece, pieces, hpieces⟩ := List.exists_cons_of_ne_nil hrest
      simp [hpieces, hdot, and_assoc]

/-- All segments of a path are left out exactly if it is nothing but dots and white space. -/
theorem camelSegments_ne_nil_iff (text : String) :
    camelSegments text.toList ≠ [] ↔ IsNamed text := by
  have hblank : camelSegments text.toList = [] ↔
      ∀ segment ∈ segments text.toList, segment.all Text.isWhite = true := by
    simp [camelSegments, List.filter_eq_nil_iff]
  rw [ne_eq, hblank, all_segments_isWhite_iff]
  simp [IsNamed]

theorem ne_nil_of_mem_camelSegments {path segment : List Char} (h : segment ∈ camelSegments path) :
    segment ≠ [] := by
  obtain ⟨piece, hpiece, rfl⟩ := List.mem_map.mp h
  obtain ⟨-, hblank⟩ := List.mem_filter.mp hpiece
  cases piece with
  | nil => exact nomatch hblank
  | cons c rest => exact fun hnil => Text.lowerChar_ne_nil c (List.append_eq_nil_iff.mp hnil).1

theorem dot_not_mem_of_mem_segments {path : List Char} :
    ∀ segment ∈ segments path, '.' ∉ segment := by
  induction path with
  | nil => simp [segments]
  | cons c rest ih =>
    rw [segments]
    by_cases hdot : c = '.'
    · rw [if_pos hdot]
      exact List.forall_mem_cons.mpr ⟨List.not_mem_nil, ih⟩
    · rw [if_neg hdot]
      cases hrest : segments rest with
      | nil => simpa using Ne.symm hdot
      | cons piece pieces =>
        rw [hrest, List.forall_mem_cons] at ih
        exact List.forall_mem_cons.mpr
          ⟨by simpa [Ne.symm hdot] using ih.1, ih.2⟩

theorem dot_not_mem_of_mem_camelSegments {path : List Char} :
    ∀ segment ∈ camelSegments path, '.' ∉ segment := by
  intro segment hsegment
  obtain ⟨piece, hpiece, rfl⟩ := List.mem_map.mp hsegment
  have hpieceDot := dot_not_mem_of_mem_segments piece (List.mem_filter.mp hpiece).1
  cases piece with
  | nil => exact List.not_mem_nil
  | cons c rest =>
    rw [List.mem_cons, not_or] at hpieceDot
    rw [camelChars, List.mem_append, not_or]
    exact ⟨Text.dot_not_mem_lowerChar (Ne.symm hpieceDot.1), hpieceDot.2⟩

/-- The segments that a camel-cased path is read as are those that it was put together from. -/
theorem segments_camelPath {path : String} (h : IsNamed path) :
    segments (camelPath path).toList = camelSegments path.toList := by
  rw [camelPath, String.toList_ofList]
  exact segments_intercalate ((camelSegments_ne_nil_iff path).mpr h)
    dot_not_mem_of_mem_camelSegments

/-- Nothing is left of a path exactly if it is nothing but dots and white space. -/
theorem camelPath_ne_empty_iff (path : String) : camelPath path ≠ "" ↔ IsNamed path := by
  constructor
  · intro hpath
    rw [← camelSegments_ne_nil_iff]
    intro hnil
    exact hpath (by rw [camelPath, hnil]; rfl)
  · intro hnamed hempty
    have hsegments := segments_camelPath hnamed
    rw [hempty] at hsegments
    have hnil : [] ∈ camelSegments path.toList := hsegments ▸ List.mem_singleton_self []
    exact ne_nil_of_mem_camelSegments hnil rfl

theorem camelPath_eq_empty_iff (path : String) :
    camelPath path = "" ↔ camelSegments path.toList = [] :=
  Decidable.not_iff_not.mp
    ((camelPath_ne_empty_iff path).trans (camelSegments_ne_nil_iff path).symm)

/-- A path and another one under it are camel-cased by themselves, and what is left of them
is joined by a dot. -/
theorem camelPath_append (first second : String) :
    camelPath (first ++ "." ++ second) =
      if camelPath first = "" then camelPath second
      else if camelPath second = "" then camelPath first
      else camelPath first ++ "." ++ camelPath second := by
  have hsegments : camelSegments (first ++ "." ++ second).toList =
      camelSegments first.toList ++ camelSegments second.toList := by
    rw [String.toList_append, String.toList_append, List.append_assoc]
    exact camelSegments_append first.toList second.toList
  simp only [camelPath_eq_empty_iff]
  split
  · next hfirst =>
    rw [camelPath, hsegments, hfirst, List.nil_append, camelPath]
  · next hfirst =>
    split
    · next hsecond => rw [camelPath, hsegments, hsecond, List.append_nil, camelPath]
    · next hsecond =>
      rw [camelPath, hsegments, intercalate_append hfirst hsecond, camelPath, camelPath,
        String.ofList_append, String.ofList_append]

end SearchStore.Naming
