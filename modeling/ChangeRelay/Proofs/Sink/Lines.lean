import ChangeRelay.Proofs.Text.Parts
import ChangeRelay.Sink.Console
import Mathlib.Data.List.Forall2

/-!
# Lines on the console

What the console prints of some changes is one line for each of them, and it does not matter in
which batches they came.  The lines can be told apart again: the kind ends at the first bracket,
the reason at the first space behind it, and the line at its break.  A namespace, if there is one,
ends at the only slash of what is left.
-/

namespace ChangeRelay

namespace Relay

/-- What an emitter at work does with some batches, one after another. -/
def EmitterState.emitAll (state : EmitterState) : List (List Change) → EmitterState × List Emission
  | [] => (state, [])
  | batch :: batches =>
      let (next, emission) := state.emit batch
      let (last, emissions) := next.emitAll batches
      (last, emission :: emissions)

end Relay

namespace Sink.Console

open Relay

/-! ## Batches -/

/-- The console before the first batch. -/
def opened (layout : ConsoleLayout) : EmitterState :=
  ⟨emitter layout, []⟩

/-- What the console prints of some batches. -/
def output (layout : ConsoleLayout) (batches : List (List Change)) : String :=
  String.join (((opened layout).emitAll batches).2.map (·.printed))

/-- How many changes the console has printed after some batches. -/
def countAfter (layout : ConsoleLayout) (batches : List (List Change)) : Nat :=
  printedCount ((opened layout).emitAll batches).1.received

theorem emitAll_console (layout : ConsoleLayout) (received batches : List (List Change)) :
    EmitterState.emitAll ⟨emitter layout, received⟩ batches =
      (⟨emitter layout, batches.reverse ++ received⟩,
        batches.map fun batch => ⟨.ok (), print layout batch, [], []⟩) := by
  induction batches generalizing received with
  | nil => rfl
  | cons batch batches ih =>
      simp only [EmitterState.emitAll, EmitterState.emit, ih, List.reverse_cons, List.append_assoc,
        List.singleton_append, List.map_cons]
      rfl

theorem printedCount_append (newer older : List (List Change)) :
    printedCount (newer ++ older) = printedCount older + newer.flatten.length := by
  induction newer with
  | nil => rfl
  | cons batch newer ih =>
      rw [List.cons_append, printedCount, ih, List.flatten_cons, List.length_append]
      omega

/-- The batches of changes make no difference to what the console prints of them. -/
theorem output_eq (layout : ConsoleLayout) (batches : List (List Change)) :
    output layout batches = String.join (batches.flatten.map (entry layout)) := by
  rw [output, opened, emitAll_console, List.map_map]
  induction batches with
  | nil => rfl
  | cons batch batches ih =>
      rw [List.map_cons, String.join_cons, ih, List.flatten_cons, List.map_append,
        String.join_append]
      rfl

theorem countAfter_eq (layout : ConsoleLayout) (batches : List (List Change)) :
    countAfter layout batches = batches.flatten.length := by
  rw [countAfter, opened, emitAll_console, printedCount_append, printedCount, Nat.zero_add,
    List.length_flatten, List.length_flatten, List.map_reverse, List.sum_reverse]

/-! ## Lines -/

/-- A name that can stand beside a slash at the end of a line. -/
def PlainName (name : String) : Prop :=
  '/' ∉ name.toList ∧ '\n' ∉ name.toList

/-- A change whose line can be read.  Line breaks in its kind or in its reason do no harm. -/
structure Legible (change : Change) : Prop where
  kind : ']' ∉ change.kind.toList
  reason : ' ' ∉ change.reason.label.toList
  namespaceName : PlainName change.namespaceName
  name : PlainName change.name

instance (name : String) : Decidable (PlainName name) :=
  inferInstanceAs (Decidable (_ ∧ _))

instance (change : Change) : Decidable (Legible change) :=
  decidable_of_iff
    (']' ∉ change.kind.toList ∧ ' ' ∉ change.reason.label.toList ∧
      PlainName change.namespaceName ∧ PlainName change.name)
    ⟨fun ⟨kind, reason, namespaceName, name⟩ => ⟨kind, reason, namespaceName, name⟩,
      fun ⟨kind, reason, namespaceName, name⟩ => ⟨kind, reason, namespaceName, name⟩⟩

/-- What the lines of two changes have in common when they read alike. -/
structure ReadsAlike (left right : Change) : Prop where
  kind : left.kind = right.kind
  reason : left.reason.label = right.reason.label
  namespaceName : left.namespaceName = right.namespaceName
  name : left.name = right.name

theorem toList_qualifiedName_of_ne {change : Change} (spaced : change.namespaceName ≠ "") :
    (qualifiedName change).toList =
      change.namespaceName.toList ++ '/' :: change.name.toList := by
  rw [qualifiedName, if_neg spaced, String.toList_append, String.toList_append, List.append_assoc]
  rfl

namespace Legible

/-- The namespace is left out exactly if there is no slash. -/
theorem slash_mem_qualifiedName_iff {change : Change} (legible : Legible change) :
    '/' ∈ (qualifiedName change).toList ↔ change.namespaceName ≠ "" := by
  by_cases spaced : change.namespaceName = ""
  · have none : '/' ∉ change.name.toList := legible.name.1
    simpa [qualifiedName, spaced] using none
  · simp [toList_qualifiedName_of_ne spaced, spaced]

theorem break_not_mem_qualifiedName {change : Change} (legible : Legible change) :
    '\n' ∉ (qualifiedName change).toList := by
  by_cases spaced : change.namespaceName = ""
  · rw [qualifiedName, if_pos spaced]
    exact legible.name.2
  · rw [toList_qualifiedName_of_ne spaced]
    simp [legible.namespaceName.2, legible.name.2]

variable {left right : Change} (legible : Legible left) (alsoLegible : Legible right)

include legible alsoLegible

theorem qualifiedName_eq_iff :
    qualifiedName left = qualifiedName right ↔
      left.namespaceName = right.namespaceName ∧ left.name = right.name := by
  constructor
  · intro same
    have bothSpaced : left.namespaceName ≠ "" ↔ right.namespaceName ≠ "" := by
      rw [← legible.slash_mem_qualifiedName_iff, same, alsoLegible.slash_mem_qualifiedName_iff]
    by_cases spaced : left.namespaceName = ""
    · have alsoBare : right.namespaceName = "" := by
        by_contra other
        exact bothSpaced.mpr other spaced
      rw [qualifiedName, if_pos spaced, qualifiedName, if_pos alsoBare] at same
      exact ⟨spaced.trans alsoBare.symm, same⟩
    · rw [← String.toList_inj, toList_qualifiedName_of_ne spaced,
        toList_qualifiedName_of_ne (bothSpaced.mp spaced),
        Text.append_separator_inj legible.namespaceName.1 alsoLegible.namespaceName.1,
        String.toList_inj, String.toList_inj] at same
      exact same
  · rintro ⟨sameNamespace, sameName⟩
    rw [qualifiedName, qualifiedName, sameNamespace, sameName]

end Legible

theorem toList_line_append (change : Change) (rest : List Char) :
    (line change).toList ++ rest =
      '[' :: (change.kind.toList ++ ']' :: ' ' :: (change.reason.label.toList ++
        ' ' :: ((qualifiedName change).toList ++ '\n' :: rest))) := by
  simp [line]

/-- Lines that stand in front of other text can be told from it. -/
theorem line_append_eq_iff {left right : Change} (legible : Legible left)
    (alsoLegible : Legible right) (rest remaining : List Char) :
    (line left).toList ++ rest = (line right).toList ++ remaining ↔
      ReadsAlike left right ∧ rest = remaining := by
  rw [toList_line_append, toList_line_append, List.cons_inj_right,
    Text.append_separator_inj legible.kind alsoLegible.kind, List.cons_inj_right,
    Text.append_separator_inj legible.reason alsoLegible.reason,
    Text.append_separator_inj legible.break_not_mem_qualifiedName
      alsoLegible.break_not_mem_qualifiedName,
    String.toList_inj, String.toList_inj, String.toList_inj,
    legible.qualifiedName_eq_iff alsoLegible]
  constructor
  · rintro ⟨kind, reason, ⟨namespaceName, name⟩, sameRest⟩
    exact ⟨⟨kind, reason, namespaceName, name⟩, sameRest⟩
  · rintro ⟨⟨kind, reason, namespaceName, name⟩, sameRest⟩
    exact ⟨kind, reason, ⟨namespaceName, name⟩, sameRest⟩

/-- The lines of legible changes can be read back one by one. -/
theorem join_lines_eq_iff {changes others : List Change}
    (legible : ∀ change ∈ changes, Legible change)
    (alsoLegible : ∀ change ∈ others, Legible change) :
    String.join (changes.map line) = String.join (others.map line) ↔
      List.Forall₂ ReadsAlike changes others := by
  rw [← String.toList_inj, String.toList_join, String.toList_join, List.flatMap_map,
    List.flatMap_map]
  -- No line is empty, so that both texts end with the same line.
  induction changes generalizing others with
  | nil =>
      cases others with
      | nil => simp
      | cons other others => simp [toList_line_append]
  | cons change changes ih =>
      cases others with
      | nil => simp [toList_line_append]
      | cons other others =>
          have first := legible change List.mem_cons_self
          have alsoFirst := alsoLegible other List.mem_cons_self
          rw [List.flatMap_cons, List.flatMap_cons, line_append_eq_iff first alsoFirst,
            List.forall₂_cons,
            ih (fun later member => legible later (List.mem_cons_of_mem _ member))
              (fun later member => alsoLegible later (List.mem_cons_of_mem _ member))]

/-! ## What is printed -/

/-- The console prints a line for each change and counts it, whatever the batches.  Of legible
changes the text tells kind, reason, namespace and name, and it tells nothing else. -/
theorem output_tells_its_changes (batches others : List (List Change)) :
    output .compact batches = String.join (batches.flatten.map line) ∧
      countAfter .compact batches = batches.flatten.length ∧
      (batches.flatten = others.flatten →
        output .compact batches = output .compact others) ∧
      ((∀ change ∈ batches.flatten, Legible change) →
        (∀ change ∈ others.flatten, Legible change) →
          (output .compact batches = output .compact others ↔
            List.Forall₂ ReadsAlike batches.flatten others.flatten)) := by
  have lines : ∀ batches, output .compact batches = String.join (batches.flatten.map line) :=
    output_eq .compact
  refine ⟨lines batches, countAfter_eq .compact batches, ?_, ?_⟩
  · intro same
    rw [lines, lines, same]
  · intro legible alsoLegible
    rw [lines, lines]
    exact join_lines_eq_iff legible alsoLegible

/-- A change of an object that shows one text in its metadata. -/
def changeShowing (member text : String) : Change :=
  ⟨"Node pool", .other "", .other (.obj [("metadata", .obj [(member, .str text)])]), none⟩

/-- A namespace without a name is not taken for a name without a namespace. -/
theorem output_tells_its_changes_bareNames :
    (∀ change ∈ [[changeShowing "name" "prod"], []].flatten, Legible change) ∧
      (∀ change ∈ [[], [changeShowing "namespace" "prod"]].flatten, Legible change) ∧
      output .compact [[changeShowing "name" "prod"], []] ≠
        output .compact [[], [changeShowing "namespace" "prod"]] := by
  have named : ∀ change ∈ [[changeShowing "name" "prod"], []].flatten, Legible change := by
    decide
  have spaced : ∀ change ∈ [[], [changeShowing "namespace" "prod"]].flatten, Legible change := by
    decide
  refine ⟨named, spaced, ?_⟩
  intro same
  obtain ⟨-, -, -, tells⟩ := output_tells_its_changes
    [[changeShowing "name" "prod"], []] [[], [changeShowing "namespace" "prod"]]
  obtain _ | ⟨alike, -⟩ := (tells named spaced).mp same
  exact absurd alike.name (by decide)

end Sink.Console

end ChangeRelay
