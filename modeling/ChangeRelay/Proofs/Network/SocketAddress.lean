import ChangeRelay.Proofs.Network.Numbers
import Mathlib.Data.List.TakeWhile

/-!
# Socket addresses are read back

Every address is read back from its text.  For version 6 this rests on two facts: a
run of groups is read up to where no group follows, and the run of zeros that is
left out is as long as what is missing.
-/

namespace ChangeRelay.Network

open Text

/-! ## Groups -/

/-- The characters of a group. -/
def groupChars (group : UInt16) : List Char :=
  Nat.toDigits 16 group.toNat

/-- Groups with a colon in front of each. -/
def furtherChars (groups : List UInt16) : List Char :=
  groups.flatMap fun group => ':' :: groupChars group

theorem toList_groupsText_cons (group : UInt16) (groups : List UInt16) :
    (Ipv6.groupsText (group :: groups)).toList = groupChars group ++ furtherChars groups := by
  induction groups generalizing group with
  | nil => simp [Ipv6.groupsText, Ipv6.groupText, groupChars, furtherChars]
  | cons next groups ih =>
      have later := ih next
      unfold Ipv6.groupsText at later ⊢
      rw [List.map_cons, List.map_cons, String.intercalate_cons_cons, String.toList_append,
        String.toList_append, ← List.map_cons, later]
      simp [Ipv6.groupText, groupChars, furtherChars]

/-- A text in which no group goes on: it is at its end, or at a mark. -/
def EndsGroup (rest : List Char) : Prop :=
  ∀ c ∈ rest.head?, c = ':' ∨ c = ']' ∨ c = '%'

theorem EndsGroup.colon (rest : List Char) : EndsGroup (':' :: rest) := by
  rintro c ⟨⟩
  exact .inl rfl

theorem EndsGroup.noDigit {rest : List Char} (ends : EndsGroup rest) :
    ∀ c ∈ rest.head?, hexDigit? c = none := by
  intro c first
  rcases ends c first with rfl | rfl | rfl <;> rfl

theorem EndsGroup.noDecimalDigit {rest : List Char} (ends : EndsGroup rest) :
    ∀ c ∈ rest.head?, decimalDigit? c = none := by
  intro c first
  rcases ends c first with rfl | rfl | rfl <;> rfl

theorem readGroup?_groupChars (group : UInt16) {rest : List Char} (ends : EndsGroup rest) :
    readGroup? (groupChars group ++ rest) = some (group, rest) := by
  have below : group.toNat < 65536 := group.toNat_lt
  have number : readNumber? hexDigit? 16 (some 4) 65535 (groupChars group ++ rest) =
      some (group.toNat, rest) := by
    apply readNumber?_toDigits knowsDigits_hex (by decide) _ (by omega) ends.noDigit
    rintro digits ⟨⟩
    exact ⟨by decide, by omega⟩
  rw [readGroup?, number]
  simp

theorem readGroup?_eq_none {c : Char} (noDigit : hexDigit? c = none) (rest : List Char) :
    readGroup? (c :: rest) = none := by
  simp [readGroup?, readNumber?, spanDigits, noDigit]

theorem head?_afterDigits_ne {text rest : List Char} (noDot : '.' ∉ text) (ends : EndsGroup rest) :
    (spanDigits decimalDigit? (text ++ rest)).2.head? ≠ some '.' := by
  induction text with
  | nil =>
      cases rest with
      | nil => nofun
      | cons c rest => rcases ends c rfl with rfl | rfl | rfl <;> simp [spanDigits, decimalDigit?]
  | cons c text ih =>
      rw [List.mem_cons, not_or] at noDot
      cases isDigit : decimalDigit? c with
      | none =>
          intro dot
          simp only [List.cons_append, spanDigits, isDigit, List.head?_cons, Option.some.injEq]
            at dot
          exact noDot.1 dot.symm
      | some digit => simpa [spanDigits, isDigit] using ih noDot.2

/-- A group is never taken for the beginning of a version 4 address. -/
theorem readIpv4?_groupChars (group : UInt16) {rest : List Char} (ends : EndsGroup rest) :
    readIpv4? (groupChars group ++ rest) = none := by
  apply readIpv4?_eq_none
  apply head?_afterDigits_ne _ ends
  intro dot
  have isDigit := (knowsDigits_hex.toDigits (by decide) group.toNat).1 '.' dot
  exact absurd isDigit (by decide)

theorem readIpv4?_colon (rest : List Char) : readIpv4? (':' :: rest) = none := by
  apply readIpv4?_eq_none
  simp [spanDigits, decimalDigit?]

/-! ## Runs of groups -/

/-- A text in which no run of groups goes on. -/
inductive EndsGroups : List Char → Prop where
  | bracket (rest : List Char) : EndsGroups (']' :: rest)
  | scope (rest : List Char) : EndsGroups ('%' :: rest)
  | colons (rest : List Char) : EndsGroups (':' :: ':' :: rest)

theorem EndsGroups.endsGroup {rest : List Char} (ends : EndsGroups rest) : EndsGroup rest := by
  cases ends with
  | bracket rest =>
      rintro c ⟨⟩
      exact .inr (.inl rfl)
  | scope rest =>
      rintro c ⟨⟩
      exact .inr (.inr rfl)
  | colons rest => exact .colon _

theorem EndsGroup.furtherChars {rest : List Char} (ends : EndsGroup rest) (groups : List UInt16) :
    EndsGroup (furtherChars groups ++ rest) := by
  cases groups with
  | nil => exact ends
  | cons group groups => exact .colon _

/-- No group is read where a run ends. -/
theorem readGroups_of_ends (room : Nat) {rest : List Char} (ends : EndsGroups rest) :
    readGroups room false rest = ([], false, rest) := by
  cases room with
  | zero => rfl
  | succ room =>
      have noGroup : (skip? ':' rest).bind readGroup? = none := by
        cases ends with
        | bracket rest | scope rest => rfl
        | colons rest => exact readGroup?_eq_none rfl rest
      have noIpv4 : (skip? ':' rest).bind readIpv4? = none := by
        cases ends with
        | bracket rest | scope rest => rfl
        | colons rest => exact readIpv4?_colon rest
      simp [readGroups, noGroup, noIpv4]

/-- A group is read together with the groups after it. -/
theorem readGroups_of_group {room : Nat} {isFirst : Bool} {text start rest : List Char}
    {group : UInt16} (begins : (if isFirst then some text else skip? ':' text) = some start)
    (here : start = groupChars group ++ rest) (ends : EndsGroup rest) :
    readGroups (room + 1) isFirst text =
      (group :: (readGroups room false rest).1, (readGroups room false rest).2) := by
  subst here
  simp [readGroups, begins, readIpv4?_groupChars group ends, readGroup?_groupChars group ends]

theorem readGroups_furtherChars {groups : List UInt16} {room : Nat} (fits : groups.length ≤ room)
    {rest : List Char} (ends : EndsGroups rest) :
    readGroups room false (furtherChars groups ++ rest) = (groups, false, rest) := by
  induction groups generalizing room with
  | nil => exact readGroups_of_ends room ends
  | cons group groups ih =>
      cases room with
      | zero => cases fits
      | succ room =>
          have later := ih (Nat.le_of_succ_le_succ fits)
          rw [furtherChars, List.flatMap_cons, ← furtherChars, List.append_assoc]
          rw [readGroups_of_group rfl rfl (ends.endsGroup.furtherChars groups), later]

/-- Groups are read back, as many as fit into the room. -/
theorem readGroups_groupsText {groups : List UInt16} {room : Nat} (fits : groups.length ≤ room)
    {rest : List Char} (ends : EndsGroups rest) :
    readGroups room true ((Ipv6.groupsText groups).toList ++ rest) = (groups, false, rest) := by
  cases room with
  | zero =>
      obtain rfl := List.eq_nil_of_length_eq_zero (Nat.le_zero.mp fits)
      rfl
  | succ room =>
      cases groups with
      | nil =>
          have noIpv4 : readIpv4? rest = none :=
            readIpv4?_eq_none (head?_afterDigits_ne List.not_mem_nil ends.endsGroup)
          have noGroup : readGroup? rest = none := by
            cases ends <;> exact readGroup?_eq_none rfl _
          simp [Ipv6.groupsText, readGroups, noIpv4, noGroup]
      | cons group groups =>
          have later := readGroups_furtherChars (Nat.le_of_succ_le_succ fits) ends
          rw [toList_groupsText_cons, List.append_assoc,
            readGroups_of_group rfl rfl (ends.endsGroup.furtherChars groups), later]

/-! ## Runs of zeros -/

/-- A run of zeros inside of some groups, by its start and its length. -/
def IsZeroRun (groups : List UInt16) (run : Nat × Nat) : Prop :=
  ∃ front back, front.length = run.1 ∧ groups = front ++ List.replicate run.2 0 ++ back

theorem isZeroRun_leadingZeros {groups : List UInt16} {start : Nat}
    (inside : start ≤ groups.length) :
    IsZeroRun groups (start, Ipv6.leadingZeros (groups.drop start)) := by
  have zeros : (groups.drop start).takeWhile (· == 0) =
      List.replicate (Ipv6.leadingZeros (groups.drop start)) 0 := by
    rw [List.eq_replicate_iff]
    refine ⟨rfl, fun group member => ?_⟩
    simpa using List.mem_takeWhile_imp member
  refine ⟨groups.take start, (groups.drop start).dropWhile (· == 0), ?_, ?_⟩
  · rw [List.length_take, Nat.min_eq_left inside]
  · rw [← zeros, List.append_assoc, List.takeWhile_append_dropWhile, List.take_append_drop]

/-- What is left out of an address is a run of zeros. -/
theorem isZeroRun_longestZeroRun (groups : List UInt16) :
    IsZeroRun groups (Ipv6.longestZeroRun groups) := by
  unfold Ipv6.longestZeroRun
  refine List.foldlRecOn _ _ ⟨[], groups, rfl, rfl⟩ fun best zeroRun start member => ?_
  dsimp only
  split
  · exact isZeroRun_leadingZeros (Nat.le_of_lt (List.mem_range.mp member))
  · exact zeroRun

/-! ## Version 6 addresses -/

theorem readIpv6?_of_whole {text rest : List Char} {address : Ipv6}
    (groups : readGroups 8 true text = (address.groups, false, rest)) :
    readIpv6? text = some (address, rest) := by
  simp [readIpv6?, groups, address.length_groups]

/-- Groups in front and at the back are filled up with zeros in the middle. -/
theorem readIpv6?_of_parts {text after rest : List Char} {address : Ipv6} {front back : List UInt16}
    {zeros : Nat} {embeds : Bool} (some : 0 < zeros)
    (parts : address.groups = front ++ List.replicate zeros 0 ++ back)
    (fronts : readGroups 8 true text = (front, false, ':' :: ':' :: after))
    (backs : readGroups (7 - front.length) true after = (back, embeds, rest)) :
    readIpv6? text = Option.some (address, rest) := by
  rcases address with ⟨groups, whole⟩
  dsimp only at parts
  subst parts
  have length : front.length + zeros + back.length = 8 := by
    rw [← whole, List.length_append, List.length_append, List.length_replicate]
  have short : ¬ front.length = 8 := by omega
  have missing : 8 - front.length - back.length = zeros := by omega
  simp [readIpv6?, fronts, short, skip?, backs, missing]
  omega

/-- The groups of an embedded address are the last two of the address around it. -/
theorem groups_of_mapped? {address : Ipv6} {embedded : Ipv4}
    (mapped : address.mapped? = some embedded) :
    address.groups = [] ++ List.replicate 5 0 ++ 0xffff :: embedded.groups := by
  have halves : ∀ group : UInt16,
      (group / 256).toUInt8.toUInt16 * 256 + group.toUInt8.toUInt16 = group := by
    intro group
    have below := group.toNat_lt
    rw [← UInt16.toNat_inj]
    simp
    omega
  unfold Ipv6.mapped? at mapped
  split at mapped
  next high low groups =>
    cases mapped
    rw [groups, Ipv4.groups, halves, halves]
    rfl
  next => cases mapped

/-- An address that embeds a version 4 address is read back. -/
theorem readIpv6?_mapped {address : Ipv6} {embedded : Ipv4}
    (mapped : address.mapped? = some embedded) {rest : List Char} (ends : EndsGroups rest) :
    readIpv6? ("::ffff:".toList ++ embedded.text.toList ++ rest) = some (address, rest) := by
  have dotted : readGroups 6 false (':' :: (embedded.text.toList ++ rest)) =
      (embedded.groups, true, rest) := by
    simp [readGroups, skip?, readIpv4?_text embedded ends.endsGroup.noDecimalDigit]
  have backs : readGroups 7 true (groupChars 0xffff ++ ':' :: (embedded.text.toList ++ rest)) =
      (0xffff :: embedded.groups, true, rest) := by
    rw [readGroups_of_group rfl rfl (.colon _), dotted]
  have fronts := readGroups_groupsText (show ([] : List UInt16).length ≤ 8 from Nat.zero_le 8)
    (.colons (groupChars 0xffff ++ ':' :: (embedded.text.toList ++ rest)))
  exact readIpv6?_of_parts (by decide) (groups_of_mapped? mapped) fronts backs

/-- An address is read back from its groups, whether or not zeros are left out. -/
theorem readIpv6?_compressed (address : Ipv6) {rest : List Char} (ends : EndsGroups rest) :
    readIpv6? (address.compressed.toList ++ rest) = some (address, rest) := by
  rcases isZeroRun_longestZeroRun address.groups with ⟨front, back, atStart, parts⟩
  unfold Ipv6.compressed
  generalize Ipv6.longestZeroRun address.groups = run at atStart parts ⊢
  rcases run with ⟨start, zeros⟩
  dsimp only at atStart parts ⊢
  have length := address.length_groups
  split
  next several =>
    have backGroups : address.groups.drop (start + zeros) = back := by
      rw [parts, ← atStart]
      exact List.drop_left' (by simp)
    have frontGroups : address.groups.take start = front := by
      rw [parts, List.append_assoc, ← atStart]
      exact List.take_left
    rw [parts, List.length_append, List.length_append, List.length_replicate] at length
    rw [frontGroups, backGroups, String.toList_append, String.toList_append, List.append_assoc,
      List.append_assoc]
    have fronts := readGroups_groupsText (show front.length ≤ 8 by omega)
      (.colons ((Ipv6.groupsText back).toList ++ rest))
    have backs := readGroups_groupsText (show back.length ≤ 7 - front.length by omega) ends
    exact readIpv6?_of_parts (by omega) parts fronts backs
  next =>
    exact readIpv6?_of_whole (readGroups_groupsText (Nat.le_of_eq length) ends)

theorem readIpv6?_text (address : Ipv6) {rest : List Char} (ends : EndsGroups rest) :
    readIpv6? (address.text.toList ++ rest) = some (address, rest) := by
  unfold Ipv6.text
  split
  next embedded mapped =>
    rw [String.toList_append]
    exact readIpv6?_mapped mapped ends
  next => exact readIpv6?_compressed address ends

/-! ## Whole addresses -/

theorem readPort?_text (port : UInt16) :
    readPort? (":".toList ++ (toString port).toList) = some port := by
  have below : port.toNat < 65536 := port.toNat_lt
  have number : readDecimal? 65535 (toString port).toList = some (port.toNat, []) := by
    have digits : (toString port).toList = Nat.toDigits 10 port.toNat ++ [] := by
      rw [List.append_nil]
      exact Nat.toList_repr
    rw [digits]
    exact readDecimal?_toDigits (by omega) nofun
  simp [readPort?, skip?, number]

theorem readScope?_text (scope : UInt32) (rest : List Char) :
    readScope? ((if scope = 0 then "" else "%" ++ toString scope).toList ++ ']' :: rest) =
      some (scope, ']' :: rest) := by
  split
  next zero =>
    rw [zero]
    rfl
  next =>
    have below : scope.toNat < 4294967296 := scope.toNat_lt
    have digits : (toString scope).toList = Nat.toDigits 10 scope.toNat := Nat.toList_repr
    have number : readDecimal? 4294967295 (Nat.toDigits 10 scope.toNat ++ ']' :: rest) =
        some (scope.toNat, ']' :: rest) := by
      apply readDecimal?_toDigits (by omega)
      rintro c ⟨⟩
      rfl
    simp [readScope?, digits, number]

namespace SocketAddress

theorem toList_text_v4 (address : Ipv4) (port : UInt16) :
    (v4 address port).text.toList =
      address.text.toList ++ (":".toList ++ (toString port).toList) := by
  rw [text, String.toList_append, String.toList_append, List.append_assoc]

theorem toList_text_v6 (address : Ipv6) (scope : UInt32) (port : UInt16) :
    (v6 address scope port).text.toList =
      '[' :: (address.text.toList ++ ((if scope = 0 then "" else "%" ++ toString scope).toList ++
        ']' :: (":".toList ++ (toString port).toList))) := by
  simp only [text, String.toList_append, List.append_assoc]
  rfl

/-- A version 4 address begins with a digit, not with a bracket. -/
theorem toList_text_v4_ne (address : Ipv4) (port : UInt16) (rest : List Char) :
    (v4 address port).text.toList ≠ '[' :: rest := by
  rw [toList_text_v4, toList_text_ipv4]
  intro bracket
  cases digits : Nat.toDigits 10 address.first.toNat with
  | nil => exact Nat.toDigits_ne_nil digits
  | cons c others =>
      have isDigit := (knowsDigits_decimal.toDigits (by decide) address.first.toNat).1 c
        (digits ▸ List.mem_cons_self)
      rw [digits] at bracket
      obtain rfl : c = '[' := (List.cons.inj bracket).1
      exact absurd isDigit (by decide)

/-- Every address is read back from its text. -/
theorem ofText?_text (address : SocketAddress) : ofText? address.text = some address := by
  cases address with
  | v4 address port =>
      have reads : readIpv4? (v4 address port).text.toList =
          some (address, ":".toList ++ (toString port).toList) := by
        rw [toList_text_v4]
        apply readIpv4?_text
        rintro c ⟨⟩
        rfl
      unfold ofText?
      split
      next rest bracket => exact absurd bracket (toList_text_v4_ne address port rest)
      next =>
        simp only [reads, readPort?_text, Option.bind_eq_bind, Option.bind_some]
        rfl
  | v6 address scope port =>
      have ends : EndsGroups ((if scope = 0 then "" else "%" ++ toString scope).toList ++
          ']' :: (":".toList ++ (toString port).toList)) := by
        split
        · exact .bracket _
        · rw [String.toList_append]
          exact .scope _
      rw [ofText?, toList_text_v6]
      simp only [readIpv6?_text address ends, readScope?_text, skip?, readPort?_text,
        Option.bind_eq_bind, Option.bind_some, if_true]
      rfl

end SocketAddress

end ChangeRelay.Network
