import ChangeRelay.Network.SocketAddress
import ChangeRelay.Proofs.Text.Digits

/-!
# The numbers of an address are read back

The parts of a version 4 address, the groups of a version 6 address, ports and scopes
are numerals.  Each of them is read back where a character follows that cannot
continue it.
-/

namespace ChangeRelay.Network

open Text

/-! ## Numerals -/

theorem readNumber?_toDigits {digit? : Char → Option Nat} {base : Nat}
    (knows : KnowsDigits digit? base) (large : 1 < base) {width : Option Nat} {largest value : Nat}
    (narrow : ∀ digits ∈ width, 0 < digits ∧ value < base ^ digits) (fits : value ≤ largest)
    {rest : List Char} (ends : ∀ c ∈ rest.head?, digit? c = none) :
    readNumber? digit? base width largest (Nat.toDigits base value ++ rest) =
      some (value, rest) := by
  rcases knows.toDigits large value with ⟨all, spelled⟩
  have length : ((Nat.toDigits base value).filterMap digit?).length =
      (Nat.toDigits base value).length := List.filterMap_length_eq_length.mpr all
  have some : ((Nat.toDigits base value).filterMap digit?).isEmpty = false := by
    rw [List.isEmpty_eq_false_iff, ← List.length_pos_iff, length, List.length_pos_iff]
    exact Nat.toDigits_ne_nil
  have short : width.any (· < ((Nat.toDigits base value).filterMap digit?).length) = false := by
    rw [length]
    cases width with
    | none => rfl
    | some digits =>
        rcases narrow digits rfl with ⟨positive, below⟩
        have bounded := (Nat.length_toDigits_le_iff large positive).mpr below
        simpa using bounded
  simp only [readNumber?, spanDigits_append all ends, spelled, some, short]
  simp [Nat.not_lt.mpr fits]

theorem readDecimal?_toDigits {largest value : Nat} (fits : value ≤ largest) {rest : List Char}
    (ends : ∀ c ∈ rest.head?, decimalDigit? c = none) :
    readDecimal? largest (Nat.toDigits 10 value ++ rest) = some (value, rest) :=
  readNumber?_toDigits knowsDigits_decimal (by decide) (by simp) fits ends

/-! ## Version 4 addresses -/

/-- Only zero has a numeral that begins with a zero. -/
theorem exists_toDigits_eq_cons {value : Nat} (positive : 0 < value) :
    ∃ c rest, Nat.toDigits 10 value = c :: rest ∧ c ≠ '0' := by
  induction value using Nat.strongRecOn with
  | ind value ih =>
    by_cases single : value < 10
    · have nonzero : ∀ digit < 10, 0 < digit → digit.digitChar ≠ '0' := by decide
      exact ⟨_, [], Nat.toDigits_of_lt_base single, nonzero value single positive⟩
    · rcases ih (value / 10) (by omega) (by omega) with ⟨c, rest, digits, nonzero⟩
      refine ⟨c, rest ++ [(value % 10).digitChar], ?_, nonzero⟩
      rw [Nat.toDigits_of_base_le (by decide) (by omega), digits]
      rfl

theorem readOctet?_toDigits (octet : UInt8) {rest : List Char}
    (ends : ∀ c ∈ rest.head?, decimalDigit? c = none) :
    readOctet? (Nat.toDigits 10 octet.toNat ++ rest) = some (octet, rest) := by
  have below : octet.toNat < 256 := octet.toNat_lt
  have number : readNumber? decimalDigit? 10 (some 3) 255 (Nat.toDigits 10 octet.toNat ++ rest) =
      some (octet.toNat, rest) := by
    apply readNumber?_toDigits knowsDigits_decimal (by decide) _ (by omega) ends
    rintro digits ⟨⟩
    exact ⟨by decide, by omega⟩
  rcases Nat.eq_zero_or_pos octet.toNat with zero | positive
  · -- A zero is taken at once if another character follows it.
    obtain rfl : octet = 0 := UInt8.toNat_inj.mp zero
    cases rest with
    | nil => rfl
    | cons c after => simp [readOctet?, ends c rfl]
  · rcases exists_toDigits_eq_cons positive with ⟨c, others, digits, nonzero⟩
    rw [digits] at number ⊢
    unfold readOctet?
    split
    next front => exact absurd (List.cons.inj front).1 nonzero
    next =>
      rw [number]
      simp

theorem toList_toString_octet (octet : UInt8) :
    (toString octet).toList = Nat.toDigits 10 octet.toNat :=
  Nat.toList_repr

theorem toList_text_ipv4 (address : Ipv4) :
    address.text.toList =
      Nat.toDigits 10 address.first.toNat ++ '.' :: (Nat.toDigits 10 address.second.toNat ++
        '.' :: (Nat.toDigits 10 address.third.toNat ++
          '.' :: Nat.toDigits 10 address.fourth.toNat)) := by
  simp only [Ipv4.text, String.toList_append, toList_toString_octet, List.append_assoc]
  rfl

theorem readIpv4?_text (address : Ipv4) {rest : List Char}
    (ends : ∀ c ∈ rest.head?, decimalDigit? c = none) :
    readIpv4? (address.text.toList ++ rest) = some (address, rest) := by
  have part : ∀ (octet : UInt8) (after : List Char),
      readOctet? (Nat.toDigits 10 octet.toNat ++ '.' :: after) = some (octet, '.' :: after) := by
    intro octet after
    apply readOctet?_toDigits octet
    rintro c ⟨⟩
    rfl
  have last := readOctet?_toDigits address.fourth ends
  simp only [toList_text_ipv4, List.append_assoc, List.cons_append, readIpv4?, part, skip?, last,
    Option.bind_eq_bind, Option.bind_some, if_true]
  rfl

/-- What follows an octet is what follows the digits in front. -/
theorem rest_of_readOctet? {text rest : List Char} {octet : UInt8}
    (reads : readOctet? text = some (octet, rest)) :
    rest = (spanDigits decimalDigit? text).2 := by
  unfold readOctet? at reads
  split at reads
  next c after =>
    cases isDigit : decimalDigit? c with
    | some digit => simp [isDigit] at reads
    | none =>
        simp only [isDigit, Option.isSome_none, Bool.false_eq_true, if_false, Option.some.injEq,
          Prod.mk.injEq] at reads
        rw [← reads.2]
        simp [spanDigits, isDigit, show decimalDigit? '0' = some 0 from rfl]
  next =>
    rcases Option.map_eq_some_iff.mp reads with ⟨⟨value, after⟩, number, same⟩
    obtain rfl : after = rest := congrArg Prod.snd same
    unfold readNumber? at number
    dsimp only at number
    split at number
    · cases number
    · exact (congrArg Prod.snd (Option.some.inj number)).symm

/-- A version 4 address has a dot after its first digits. -/
theorem readIpv4?_eq_none {text : List Char}
    (noDot : (spanDigits decimalDigit? text).2.head? ≠ some '.') : readIpv4? text = none := by
  cases reads : readOctet? text with
  | none => simp [readIpv4?, reads]
  | some first =>
      rcases first with ⟨octet, rest⟩
      have stuck : skip? '.' rest = none := by
        rw [← rest_of_readOctet? reads] at noDot
        cases rest with
        | nil => rfl
        | cons c after =>
            have other : c ≠ '.' := fun same => noDot (congrArg some same)
            simp [skip?, other]
      simp [readIpv4?, reads, stuck]

end ChangeRelay.Network
