import ChangeRelay.Text.Digits
import Mathlib.Algebra.Ring.Nat

/-!
# Digits are read back

A number that fits is read back from its digits, whether their count is known
beforehand or they end where another character stands.  The decimal text of a
number is a text of fixed width too, for a width that it fits.
-/

namespace ChangeRelay.Text

/-! ## Single digits -/

@[simp]
theorem decimalDigit?_decimalDigit (value : Nat) :
    decimalDigit? (decimalDigit value) = some (value % 10) := by
  have every : ∀ digit < 10, decimalDigit? (Char.ofNat ('0'.toNat + digit)) = some digit := by
    decide
  exact every _ (Nat.mod_lt _ (by decide))

theorem digitChar_eq_decimalDigit (value : Nat) : (value % 10).digitChar = decimalDigit value := by
  have every : ∀ digit < 10, digit.digitChar = Char.ofNat ('0'.toNat + digit) := by decide
  exact every _ (Nat.mod_lt _ (by decide))

/-! ## Texts of a fixed width -/

@[simp]
theorem length_fixedWidth (width value : Nat) : (fixedWidth width value).length = width := by
  induction width generalizing value with
  | zero => rfl
  | succ width ih => simp [fixedWidth, ih]

/-- The values of the last `width` digits of a number. -/
def lastDigits (width value : Nat) : List Nat :=
  (fixedWidth width value).filterMap decimalDigit?

theorem lastDigits_succ (width value : Nat) :
    lastDigits (width + 1) value = lastDigits width (value / 10) ++ [value % 10] := by
  simp [lastDigits, fixedWidth]

@[simp]
theorem length_lastDigits (width value : Nat) : (lastDigits width value).length = width := by
  induction width generalizing value with
  | zero => rfl
  | succ width ih => simp [lastDigits_succ, ih]

theorem ofDigits_concat (base : Nat) (digits : List Nat) (last : Nat) :
    ofDigits base (digits ++ [last]) = ofDigits base digits * base + last := by
  simp [ofDigits]

theorem ofDigits_lastDigits {width value : Nat} (fits : value < 10 ^ width) :
    ofDigits 10 (lastDigits width value) = value := by
  induction width generalizing value with
  | zero =>
      rw [Nat.pow_zero, Nat.lt_one_iff] at fits
      subst fits
      rfl
  | succ width ih =>
      have shorter : value / 10 < 10 ^ width := by
        rw [Nat.pow_succ] at fits
        omega
      rw [lastDigits_succ, ofDigits_concat, ih shorter, Nat.div_add_mod']

/-- A number that fits its width is read back. -/
theorem readFixedWidth?_fixedWidth {width value : Nat} (fits : value < 10 ^ width)
    (rest : List Char) :
    readFixedWidth? width (fixedWidth width value ++ rest) = some (value, rest) := by
  have front : (fixedWidth width value ++ rest).take width = fixedWidth width value := by
    rw [List.take_append_of_le_length (by simp), List.take_of_length_le (by simp)]
  have back : (fixedWidth width value ++ rest).drop width = rest := by
    rw [List.drop_append_of_le_length (by simp), List.drop_of_length_le (by simp), List.nil_append]
  simp only [readFixedWidth?, front, back]
  rw [← lastDigits, if_pos (length_lastDigits width value), ofDigits_lastDigits fits]

/-! ## Texts that end where another character stands -/

/-- A run of digits ends where no digit follows. -/
theorem spanDigits_append {digit? : Char → Option Nat} {text rest : List Char}
    (all : ∀ c ∈ text, (digit? c).isSome) (ends : ∀ c ∈ rest.head?, digit? c = none) :
    spanDigits digit? (text ++ rest) = (text.filterMap digit?, rest) := by
  induction text with
  | nil =>
      cases rest with
      | nil => rfl
      | cons stop rest => simp [spanDigits, ends stop rfl]
  | cons c text ih =>
      obtain ⟨digit, isDigit⟩ := Option.isSome_iff_exists.mp (all c (by simp))
      have others := ih fun other member => all other (by simp [member])
      simp [spanDigits, isDigit, others]

theorem isSome_decimalDigit?_of_mem_fixedWidth {width value : Nat} {c : Char}
    (member : c ∈ fixedWidth width value) : (decimalDigit? c).isSome := by
  induction width generalizing value with
  | zero => cases member
  | succ width ih =>
      rcases List.mem_append.mp member with before | last
      · exact ih before
      · obtain rfl := List.mem_singleton.mp last
        simp

theorem spanDigits_fixedWidth (width value : Nat) (stop : Char) (rest : List Char)
    (noDigit : decimalDigit? stop = none) :
    spanDigits decimalDigit? (fixedWidth width value ++ stop :: rest) =
      (lastDigits width value, stop :: rest) := by
  apply spanDigits_append (fun _ => isSome_decimalDigit?_of_mem_fixedWidth)
  intro c first
  cases first
  exact noDigit

/-! ## The decimal text of a number -/

/-- The decimal text of a number has a fixed width that the number fits. -/
theorem exists_toDigits_eq_fixedWidth (value : Nat) :
    ∃ width, value < 10 ^ width ∧ Nat.toDigits 10 value = fixedWidth width value := by
  induction value using Nat.strongRecOn with
  | ind value ih =>
    by_cases single : value < 10
    · have digit := digitChar_eq_decimalDigit value
      rw [Nat.mod_eq_of_lt single] at digit
      refine ⟨1, by simpa using single, ?_⟩
      rw [Nat.toDigits_of_lt_base single, digit]
      rfl
    · obtain ⟨width, fits, digits⟩ := ih (value / 10) (by omega)
      refine ⟨width + 1, ?_, ?_⟩
      · rw [Nat.pow_succ]
        omega
      · rw [Nat.toDigits_of_base_le (by decide) (by omega), digits, digitChar_eq_decimalDigit]
        rfl

/-! ## Numerals in any base -/

/-- A reader of single digits knows the digits below a base. -/
def KnowsDigits (digit? : Char → Option Nat) (base : Nat) : Prop :=
  ∀ value < base, digit? value.digitChar = some value

theorem knowsDigits_decimal : KnowsDigits decimalDigit? 10 := by
  unfold KnowsDigits
  decide

theorem knowsDigits_hex : KnowsDigits hexDigit? 16 := by
  unfold KnowsDigits
  decide

/-- A numeral consists of digits, and they spell its number. -/
theorem KnowsDigits.toDigits {digit? : Char → Option Nat} {base : Nat}
    (knows : KnowsDigits digit? base) (large : 1 < base) (value : Nat) :
    (∀ c ∈ Nat.toDigits base value, (digit? c).isSome) ∧
      ofDigits base ((Nat.toDigits base value).filterMap digit?) = value := by
  induction value using Nat.strongRecOn with
  | ind value ih =>
    by_cases single : value < base
    · rw [Nat.toDigits_of_lt_base single]
      simp [knows value single, ofDigits]
    · have shorter : value / base < value := Nat.div_lt_self (by omega) large
      have last := knows (value % base) (Nat.mod_lt _ (by omega))
      rcases ih (value / base) shorter with ⟨all, spelled⟩
      rw [Nat.toDigits_of_base_le large (by omega)]
      constructor
      · intro c member
        rcases List.mem_append.mp member with front | isLast
        · exact all c front
        · rw [List.mem_singleton.mp isLast, last]
          rfl
      · rw [List.filterMap_append, List.filterMap_cons_some last, List.filterMap_nil,
          ofDigits_concat, spelled]
        exact Nat.div_add_mod' value base

end ChangeRelay.Text
