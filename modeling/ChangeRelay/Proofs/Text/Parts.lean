import ChangeRelay.Text.Parts
import Mathlib.Data.List.Basic
import Mathlib.Data.List.TakeWhile

/-!
# White space around a text, and segments between separators

A text that is white space throughout is trimmed to nothing, and white space that
is put around a text is taken away again.  Cutting a text and putting a separator
between the segments are inverse to each other, as long as no segment contains the
separator.
-/

namespace ChangeRelay.Text

/-! ## White space -/

/-- A text that consists of white space. -/
def AllBlank (text : String) : Prop :=
  ∀ c ∈ text.toList, isBlank c = true

theorem trimChars_eq_nil_iff {text : List Char} :
    trimChars text = [] ↔ ∀ c ∈ text, isBlank c = true := by
  rw [trimChars, List.reverse_eq_nil_iff, List.dropWhile_eq_nil_iff]
  constructor
  · intro tail
    rw [← List.dropWhile_eq_nil_iff]
    -- What is left after the blanks in front would begin with a blank.
    cases left : text.dropWhile isBlank with
    | nil => rfl
    | cons c rest =>
        have remains : text.dropWhile isBlank ≠ [] := by simp [left]
        have solid : ¬ isBlank c = true := by
          simpa [left] using List.head_dropWhile_not isBlank remains
        exact absurd (tail c (by simp [left])) solid
  · intro blank c member
    rw [List.dropWhile_eq_nil_iff.mpr blank] at member
    cases member

theorem trim_eq_empty_iff {text : String} : trim text = "" ↔ AllBlank text := by
  rw [trim, ← String.toList_inj, String.toList_ofList]
  exact trimChars_eq_nil_iff

theorem dropWhile_isBlank_append {front text : List Char} (blank : ∀ c ∈ front, isBlank c = true) :
    (front ++ text).dropWhile isBlank = text.dropWhile isBlank := by
  rw [List.dropWhile_append, List.dropWhile_eq_nil_iff.mpr blank]
  rfl

theorem trimChars_append {front text back : List Char} (blankFront : ∀ c ∈ front, isBlank c = true)
    (blankBack : ∀ c ∈ back, isBlank c = true) :
    trimChars (front ++ text ++ back) = trimChars text := by
  have blankReverse : ∀ c ∈ back.reverse, isBlank c = true := by
    intro c member
    exact blankBack c (List.mem_reverse.mp member)
  rw [trimChars, trimChars, List.append_assoc, dropWhile_isBlank_append blankFront,
    List.dropWhile_append]
  split
  next allBlank =>
    rw [List.isEmpty_iff.mp allBlank, List.dropWhile_eq_nil_iff.mpr blankBack]
  next =>
    rw [List.reverse_append, dropWhile_isBlank_append blankReverse]

/-- White space around a text does not count. -/
theorem trim_append {front text back : String} (blankFront : AllBlank front)
    (blankBack : AllBlank back) : trim (front ++ text ++ back) = trim text := by
  rw [trim, String.toList_append, String.toList_append, trimChars_append blankFront blankBack,
    ← trim]

/-! ## Segments -/

/-- The first separator of a text tells where its first segment ends. -/
theorem append_separator_inj {separator : Char} {first other rest remaining : List Char}
    (clean : separator ∉ first) (alsoClean : separator ∉ other) :
    first ++ separator :: rest = other ++ separator :: remaining ↔
      first = other ∧ rest = remaining := by
  constructor
  · intro same
    induction first generalizing other with
    | nil =>
        cases other with
        | nil => exact ⟨rfl, (List.cons.inj same).2⟩
        | cons c other =>
            -- The separator would be the first character of the other segment.
            obtain ⟨rfl, -⟩ := List.cons.inj same
            exact absurd List.mem_cons_self alsoClean
    | cons c first ih =>
        cases other with
        | nil =>
            obtain ⟨rfl, -⟩ := List.cons.inj same
            exact absurd List.mem_cons_self clean
        | cons d other =>
            obtain ⟨rfl, sameRest⟩ := List.cons.inj same
            obtain ⟨rfl, rfl⟩ := ih (fun member => clean (List.mem_cons_of_mem c member))
              (fun member => alsoClean (List.mem_cons_of_mem c member)) sameRest
            exact ⟨rfl, rfl⟩
  · rintro ⟨rfl, rfl⟩
    rfl

theorem segments_cons (separator c : Char) (rest : List Char) :
    segments separator (c :: rest) =
      if c = separator then [] :: segments separator rest
      else (segments separator rest).modifyHead (c :: ·) := by
  by_cases here : c = separator
  · simp [segments, cutSegments, here]
  · simp [segments, cutSegments, here]

theorem segments_eq_splitOn (separator : Char) (text : List Char) :
    segments separator text = text.splitOn separator := by
  induction text with
  | nil => rfl
  | cons c rest ih =>
      rw [segments_cons, List.splitOn_cons_eq_if_modifyHead, ih]
      simp only [beq_iff_eq]

/-- The segments with separators between them are the text. -/
theorem intercalate_split (separator : Char) (text : String) :
    String.intercalate (String.singleton separator) (split separator text) = text := by
  have cut : (split separator text).map String.toList = text.toList.splitOn separator := by
    rw [split, List.map_map, segments_eq_splitOn]
    simp [Function.comp_def]
  rw [← String.toList_inj, String.toList_intercalate, cut, String.toList_singleton,
    List.intercalate_splitOn]

/-- Segments without a separator are what their text is cut into. -/
theorem split_intercalate {separator : Char} {parts : List String} (some : parts ≠ [])
    (clean : ∀ part ∈ parts, separator ∉ part.toList) :
    split separator (String.intercalate (String.singleton separator) parts) = parts := by
  have cleanLists : ∀ part ∈ parts.map String.toList, separator ∉ part := by
    intro part member
    rcases List.mem_map.mp member with ⟨source, among, rfl⟩
    exact clean source among
  rw [split, segments_eq_splitOn, String.toList_intercalate, String.toList_singleton,
    List.splitOn_intercalate separator cleanLists (by simpa using some), List.map_map]
  simp [Function.comp_def]

end ChangeRelay.Text
