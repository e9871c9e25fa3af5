import SearchStore.Proofs.Schema.Segments

/-!
Paths that are camel-cased again. What is left of a path is joined by dots from segments
that are neither blank nor dotted and that already start in lower case. So camel-casing
goes along with the dots of a path, and a second time it changes nothing.
-/

namespace SearchStore.Naming

/-- The segments that a path is put together from. The empty path has none. -/
def parts (path : String) : List (List Char) := if path = "" then [] else segments path.toList

/-- A path without blank segments, and without a dot at the front, at the end or next to
another one. -/
structure IsTidy (path : String) : Prop where
  not_blank : ∀ segment ∈ parts path, segment.all Text.isWhite = false
  not_leading : ∀ rest, path ≠ "." ++ rest
  not_trailing : ∀ rest, path ≠ rest ++ "."
  not_doubled : ∀ before after, path ≠ before ++ ".." ++ after

/-- A dot at the front, at the end or after another one leaves an empty segment, which is
blank. -/
theorem IsTidy.of_parts {path : String}
    (h : ∀ segment ∈ parts path, segment.all Text.isWhite = false) : IsTidy path := by
  have hbetween : ∀ first second : List Char, path.toList = first ++ '.' :: second →
      [] ∉ segments first ∧ [] ∉ segments second := by
    intro first second hsplit
    have hpath : path ≠ "" := by
      rintro rfl
      simp at hsplit
    have hfilled : [] ∉ segments path.toList := by
      intro hnil
      have hblank := h [] (by rwa [parts, if_neg hpath])
      exact nomatch hblank
    rw [hsplit, segments_append, List.mem_append, not_or] at hfilled
    exact hfilled
  refine ⟨h, fun rest hrest => ?_, fun rest hrest => ?_, fun before after hrest => ?_⟩
  · have hfront := (hbetween [] rest.toList (by simp [hrest])).1
    exact hfront (List.mem_singleton_self [])
  · have hend := (hbetween rest.toList [] (by simp [hrest])).2
    exact hend (List.mem_singleton_self [])
  · have hinside := (hbetween before.toList ('.' :: after.toList) (by simp [hrest])).2
    exact hinside List.mem_cons_self

/-- A segment that starts in lower case is left alone. -/
theorem camelChars_camelChars (segment : List Char) :
    camelChars (camelChars segment) = camelChars segment := by
  cases segment with
  | nil => rfl
  | cons c rest =>
    rcases Text.lowerChar_cases c with hself | ⟨small, others, hlower, hsmall, -⟩
    · rw [camelChars, hself, List.singleton_append, camelChars, hself, List.singleton_append]
    · rw [camelChars, hlower, List.cons_append, camelChars, hsmall.lowerChar_eq,
        List.singleton_append]

theorem camelChars_not_blank {segment : List Char} (h : segment.all Text.isWhite = false) :
    (camelChars segment).all Text.isWhite = false := by
  cases segment with
  | nil => exact h
  | cons c rest =>
    rcases Text.lowerChar_cases c with hself | ⟨small, others, hlower, hsmall, -⟩
    · rwa [camelChars, hself, List.singleton_append]
    · rw [camelChars, hlower, List.cons_append, List.all_cons, hsmall.not_white, Bool.false_and]

/-- No segment that is left of a path is blank. -/
theorem not_blank_of_mem_camelSegments {path : List Char} :
    ∀ segment ∈ camelSegments path, segment.all Text.isWhite = false := by
  intro segment hsegment
  obtain ⟨piece, hpiece, rfl⟩ := List.mem_map.mp hsegment
  obtain ⟨-, hblank⟩ := List.mem_filter.mp hpiece
  exact camelChars_not_blank (by simpa using hblank)

/-- A camel-cased path is put together from what is left of the path. -/
theorem parts_camelPath (path : String) : parts (camelPath path) = camelSegments path.toList := by
  by_cases hpath : camelPath path = ""
  · rw [parts, if_pos hpath, (camelPath_eq_empty_iff path).mp hpath]
  · rw [parts, if_neg hpath]
    exact segments_camelPath ((camelPath_ne_empty_iff path).mp hpath)

/-- Nothing more is left out of a camel-cased path, and nothing in it is lowered. -/
theorem camelSegments_camelPath (path : String) :
    camelSegments (camelPath path).toList = camelSegments path.toList := by
  by_cases hpath : camelPath path = ""
  · rw [hpath, (camelPath_eq_empty_iff path).mp hpath]
    rfl
  · have hkept : ((camelSegments path.toList).filter fun segment =>
        !segment.all Text.isWhite) = camelSegments path.toList := by
      rw [List.filter_eq_self]
      intro segment hsegment
      rw [not_blank_of_mem_camelSegments segment hsegment]
      rfl
    have hcamel : ∀ segment ∈ camelSegments path.toList, camelChars segment = segment := by
      intro segment hsegment
      obtain ⟨piece, -, rfl⟩ := List.mem_map.mp hsegment
      exact camelChars_camelChars piece
    have hnamed := (camelPath_ne_empty_iff path).mp hpath
    rw [camelSegments, segments_camelPath hnamed, hkept, List.map_congr_left hcamel, List.map_id']

theorem isTidy_camelPath (path : String) : IsTidy (camelPath path) := by
  apply IsTidy.of_parts
  rw [parts_camelPath]
  exact not_blank_of_mem_camelSegments

/-- Two paths, one under the other, are camel-cased by themselves and joined by a dot, if
anything is left of both. A camel-cased path stays as it is, and each of its segments has a
name, with no dot before, after or beside another one. -/
theorem camelPath_respects_dots (first second : String) :
    camelPath (first ++ "." ++ second) =
        ".".intercalate ([camelPath first, camelPath second].filter (· ≠ "")) ∧
      camelPath (camelPath first) = camelPath first ∧
      IsTidy (camelPath first) := by
  refine ⟨?_, ?_, isTidy_camelPath first⟩
  · rw [camelPath_append]
    by_cases hfirst : camelPath first = ""
    · by_cases hsecond : camelPath second = ""
      · simp [hfirst, hsecond]
      · simp [hfirst, hsecond]
    · by_cases hsecond : camelPath second = ""
      · simp [hfirst, hsecond]
      · simp [hfirst, hsecond, String.intercalate_cons_cons]
  · rw [camelPath, camelSegments_camelPath, camelPath]

end SearchStore.Naming
