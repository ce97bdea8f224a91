/-!
# Parts of a text

A text is trimmed of the white space of Unicode around it, is searched for another
text, is cut into segments at each separator, or is cut at the places of bytes in its
UTF-8 form.
-/

namespace ChangeRelay.Text

/-! ## White space around a text -/

/-- Whether a character is white space. -/
def isBlank (c : Char) : Bool :=
  (0x9 ≤ c.toNat && c.toNat ≤ 0xD) || c.toNat == 0x20 || c.toNat == 0x85 || c.toNat == 0xA0
    || c.toNat == 0x1680 || (0x2000 ≤ c.toNat && c.toNat ≤ 0x200A) || c.toNat == 0x2028
    || c.toNat == 0x2029 || c.toNat == 0x202F || c.toNat == 0x205F || c.toNat == 0x3000

/-- A text without the white space at its two ends. -/
def trimChars (text : List Char) : List Char :=
  ((text.dropWhile isBlank).reverse.dropWhile isBlank).reverse

/-- A text without the white space at its two ends. -/
def trim (text : String) : String :=
  String.ofList (trimChars text.toList)

/-! ## One text in another

Texts are searched character by character, so case and form both matter. -/

/-- Whether a text contains a pattern as one connected part. -/
def occursIn (pattern : List Char) : List Char → Bool
  | [] => pattern.isEmpty
  | c :: rest => pattern.isPrefixOf (c :: rest) || occursIn pattern rest

theorem occursIn_iff_isInfix (pattern text : List Char) :
    occursIn pattern text = true ↔ pattern <:+: text := by
  induction text with
  | nil => simp [occursIn]
  | cons c rest ih => simp [occursIn, ih, List.infix_cons_iff]

/-- Whether one text contains another. -/
def mentions (text pattern : String) : Bool :=
  occursIn pattern.toList text.toList

/-! ## Segments

A text is cut at every occurrence of a separator, so there is one more segment
than there are separators. -/

/-- The segment in front of the first separator, and the segments after it. -/
def cutSegments (separator : Char) : List Char → List Char × List (List Char)
  | [] => ([], [])
  | c :: rest =>
      let (first, others) := cutSegments separator rest
      if c = separator then ([], first :: others) else (c :: first, others)

/-- The segments of a text. -/
def segments (separator : Char) (text : List Char) : List (List Char) :=
  let (first, others) := cutSegments separator text
  first :: others

/-- The segments of a text. -/
def split (separator : Char) (text : String) : List String :=
  (segments separator text.toList).map String.ofList

/-! ## Slices

There is a part between two places of bytes only if it begins and ends between two
characters. -/

/-- How many bytes a text has. -/
def byteCount (text : List Char) : Nat :=
  text.foldr (fun c total => c.utf8Size + total) 0

/-- A text without so many bytes in front. -/
def dropBytes? : (count : Nat) → List Char → Option (List Char)
  | 0, text => some text
  | _ + 1, [] => none
  | count + 1, c :: rest =>
      if c.utf8Size ≤ count + 1 then dropBytes? (count + 1 - c.utf8Size) rest else none

/-- So many bytes in front of a text. -/
def takeBytes? : (count : Nat) → List Char → Option (List Char)
  | 0, _ => some []
  | _ + 1, [] => none
  | count + 1, c :: rest =>
      if c.utf8Size ≤ count + 1 then
        (takeBytes? (count + 1 - c.utf8Size) rest).map (c :: ·)
      else none

/-- The part of a text from one byte up to another. -/
def slice? (first last : Nat) (text : List Char) : Option (List Char) :=
  (dropBytes? first text).bind (takeBytes? (last - first))

end ChangeRelay.Text
