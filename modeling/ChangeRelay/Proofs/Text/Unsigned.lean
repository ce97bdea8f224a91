import ChangeRelay.Proofs.Text.Digits
import ChangeRelay.Text.Unsigned

/-!
# Unsigned numbers are what their digits spell

A text is read as an unsigned number exactly if it consists of digits, with at most
a plus sign in front of them, and they spell a number in the range.  In particular
every number in the range is read back from its decimal text.
-/

namespace ChangeRelay.Text

variable {largest total value : Nat}

/-- The number that more digits make of a number. -/
def appendDigits (total : Nat) (digits : List Nat) : Nat :=
  digits.foldl (fun total digit => total * 10 + digit) total

@[simp]
theorem appendDigits_nil (total : Nat) : appendDigits total [] = total :=
  rfl

@[simp]
theorem appendDigits_cons (total digit : Nat) (digits : List Nat) :
    appendDigits total (digit :: digits) = appendDigits (total * 10 + digit) digits :=
  rfl

theorem le_appendDigits (total : Nat) (digits : List Nat) :
    total ≤ appendDigits total digits := by
  induction digits generalizing total with
  | nil => exact Nat.le_refl total
  | cons digit digits ih =>
      calc
        total ≤ total * 10 + digit := by omega
        _ ≤ appendDigits (total * 10 + digit) digits := ih _

/-- A number in the range is continued exactly by digits that keep it there.  Since
more digits never make a number smaller, it is enough that the last number fits. -/
theorem continueUnsigned_eq_ok_iff {text : List Char} (small : total ≤ largest) :
    continueUnsigned largest total text = .ok value ↔
      (∀ c ∈ text, (decimalDigit? c).isSome) ∧
        appendDigits total (text.filterMap decimalDigit?) = value ∧ value ≤ largest := by
  induction text generalizing total with
  | nil =>
      simp only [continueUnsigned, List.filterMap_nil, appendDigits_nil, Except.ok.injEq]
      constructor
      · rintro rfl
        exact ⟨nofun, rfl, small⟩
      · exact fun ⟨_, same, _⟩ => same
  | cons c rest ih =>
      rw [continueUnsigned]
      cases isDigit : decimalDigit? c with
      | none => simp [isDigit]
      | some digit =>
          rw [List.filterMap_cons_some isDigit, appendDigits_cons, List.forall_mem_cons, isDigit]
          by_cases large : largest < total * 10 + digit
          · have larger := le_appendDigits (total * 10 + digit) (rest.filterMap decimalDigit?)
            simp only [if_pos large]
            constructor
            · nofun
            · rintro ⟨_, rfl, fits⟩
              omega
          · simp only [if_neg large, ih (Nat.le_of_not_lt large), Option.isSome_some, true_and]

/-- A text is read as a number exactly if its digits spell that number. -/
theorem readUnsigned_eq_ok_iff {text : String} :
    readUnsigned largest text = .ok value ↔
      ∃ digits, (text.toList = digits ∨ text.toList = '+' :: digits) ∧ digits ≠ [] ∧
        (∀ c ∈ digits, (decimalDigit? c).isSome) ∧
        ofDigits 10 (digits.filterMap decimalDigit?) = value ∧ value ≤ largest := by
  rw [readUnsigned]
  split
  next empty =>
    simp only [empty]
    constructor
    · nofun
    · rintro ⟨digits, rfl | plus, nonempty, -⟩
      · exact absurd rfl nonempty
      · cases plus
  next plus =>
    simp only [plus]
    constructor
    · nofun
    · rintro ⟨digits, rfl | same, nonempty, all, -⟩
      · exact absurd (all '+' List.mem_cons_self) (by decide)
      · exact absurd (List.cons.inj same).2.symm nonempty
  next digits notAlone spelled =>
    rw [continueUnsigned_eq_ok_iff (Nat.zero_le largest), spelled]
    constructor
    · intro reads
      refine ⟨digits, .inr rfl, ?_, reads⟩
      rintro rfl
      exact notAlone rfl
    · rintro ⟨same, rfl | front, nonempty, reads⟩
      · exact absurd (reads.1 '+' List.mem_cons_self) (by decide)
      · cases front
        exact reads
  next nonempty _ noFront =>
    rw [continueUnsigned_eq_ok_iff (Nat.zero_le largest)]
    constructor
    · exact fun reads => ⟨_, .inl rfl, nonempty, reads⟩
    · rintro ⟨digits, rfl | front, _, reads⟩
      · exact reads
      · exact absurd front (noFront digits)

/-- A number in the range is read back from its decimal text. -/
theorem readUnsigned_toString (fits : value ≤ largest) :
    readUnsigned largest (toString value) = .ok value := by
  obtain ⟨width, small, spelled⟩ := exists_toDigits_eq_fixedWidth value
  have digits : (toString value).toList = fixedWidth width value := by
    rw [Nat.toString_eq_repr, Nat.toList_repr, spelled]
  refine readUnsigned_eq_ok_iff.mpr ⟨_, .inl digits, ?_, ?_, ofDigits_lastDigits small, fits⟩
  · rw [← spelled]
    exact Nat.toDigits_ne_nil
  · exact fun _ => isSome_decimalDigit?_of_mem_fixedWidth

end ChangeRelay.Text
