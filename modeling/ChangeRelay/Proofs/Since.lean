import Mathlib.Data.List.Induction

/-!
# What happened last

A history is a list with its oldest item first.  What an item means may depend
on the items before it, so a happening is a relation between a history and the
item that follows it.

The laws here follow a history as it grows at its end, and, for what never happens,
also as it is gone through from its beginning.
-/

namespace ChangeRelay

universe u

variable {α : Type u}

/-- No item of a history is such a happening. -/
def Never (happens : List α → α → Prop) (history : List α) : Prop :=
  ∀ before item after, history = before ++ item :: after → ¬ happens before item

/-- Something began in a history, and nothing has ended it since. -/
def Since (begins ends : List α → α → Prop) (history : List α) : Prop :=
  ∃ before item after, history = before ++ item :: after ∧ begins before item ∧
    Never (fun middle => ends (before ++ item :: middle)) after

@[simp]
theorem never_nil (happens : List α → α → Prop) : Never happens [] := by
  intro before item after split
  simp at split

theorem never_concat_iff (happens : List α → α → Prop) (history : List α) (last : α) :
    Never happens (history ++ [last]) ↔ Never happens history ∧ ¬ happens history last := by
  constructor
  · intro never
    constructor
    · intro before item after split
      apply never before item (after ++ [last])
      rw [split, List.append_assoc, List.cons_append]
    · exact never history last [] rfl
  · rintro ⟨never, notLast⟩ before item after split
    rcases List.eq_nil_or_concat after with rfl | ⟨middle, final, rfl⟩
    · obtain ⟨rfl, single⟩ := List.append_inj' split rfl
      cases single
      exact notLast
    · have grown : history ++ [last] = (before ++ item :: middle) ++ [final] := by
        simpa using split
      obtain ⟨rfl, _⟩ := List.append_inj' grown rfl
      exact never before item middle rfl

theorem never_cons_iff (happens : List α → α → Prop) (first : α) (history : List α) :
    Never happens (first :: history) ↔
      ¬ happens [] first ∧ Never (fun before => happens (first :: before)) history := by
  constructor
  · intro never
    constructor
    · exact never [] first history rfl
    · rintro before item after rfl
      exact never (first :: before) item after rfl
  · rintro ⟨notFirst, never⟩ before item after split
    cases before with
    | nil =>
        cases split
        exact notFirst
    | cons _ before =>
        cases split
        exact never before item after rfl

@[simp]
theorem not_since_nil (begins ends : List α → α → Prop) : ¬ Since begins ends [] := by
  rintro ⟨before, item, after, split, _⟩
  simp at split

theorem since_concat_iff (begins ends : List α → α → Prop) (history : List α) (last : α) :
    Since begins ends (history ++ [last]) ↔
      begins history last ∨ (¬ ends history last ∧ Since begins ends history) := by
  constructor
  · rintro ⟨before, item, after, split, begun, lasting⟩
    rcases List.eq_nil_or_concat after with rfl | ⟨middle, final, rfl⟩
    · obtain ⟨rfl, single⟩ := List.append_inj' split rfl
      cases single
      exact .inl begun
    · have grown : history ++ [last] = (before ++ item :: middle) ++ [final] := by
        simpa using split
      obtain ⟨rfl, single⟩ := List.append_inj' grown rfl
      cases single
      rw [List.concat_eq_append] at lasting
      obtain ⟨lasting, notEnded⟩ := (never_concat_iff _ middle last).mp lasting
      exact .inr ⟨notEnded, before, item, middle, rfl, begun, lasting⟩
  · rintro (begun | ⟨notEnded, before, item, middle, rfl, begun, lasting⟩)
    · exact ⟨history, last, [], rfl, begun, never_nil _⟩
    · refine ⟨before, item, middle ++ [last], by simp, begun, ?_⟩
      exact (never_concat_iff _ middle last).mpr ⟨lasting, notEnded⟩

end ChangeRelay
