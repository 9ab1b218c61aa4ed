/-!
# Text — code points, blanks and searching

Template text is a list of code points, because every offset, column and
length of a report counts them. This file holds the cuts and searches the
rest of the library is written with: trimming blanks, the part after a
leading word, the two sides of an occurrence, and splitting at a
separator.
-/

namespace TemplateLint

/-- Template text. Every offset, column and length counts its code
points. -/
abbrev Text := List Char

namespace Text

/-! ## Classes of characters -/

/-- A code point lies in one of some closed ranges. -/
def inRanges (ranges : List (Nat × Nat)) (n : Nat) : Bool :=
  ranges.any fun r => r.1 ≤ n && n ≤ r.2

/-- The closed code point ranges of white space. -/
def blankRanges : List (Nat × Nat) :=
  [(0x09, 0x0D), (0x1C, 0x20), (0x85, 0x85), (0xA0, 0xA0), (0x1680, 0x1680),
   (0x2000, 0x200A), (0x2028, 0x2029), (0x202F, 0x202F), (0x205F, 0x205F),
   (0x3000, 0x3000)]

/-- White space of any script, line and information separators included. -/
def isBlank (c : Char) : Bool :=
  inRanges blankRanges c.toNat

/-! ## Trimming -/

/-- A text without the leading characters of a class. -/
def dropStart (p : Char → Bool) (t : Text) : Text :=
  t.dropWhile p

/-- A text without the trailing characters of a class. -/
def dropEnd (p : Char → Bool) (t : Text) : Text :=
  (t.reverse.dropWhile p).reverse

/-- A text without the blanks at its two ends. -/
def trim (t : Text) : Text :=
  dropEnd isBlank (dropStart isBlank t)

/-! ## Searching -/

/-- What follows a leading word, if the text starts with it. -/
def after? : Text → Text → Option Text
  | [], t => some t
  | _ :: _, [] => none
  | w :: word, c :: t => if w = c then after? word t else none

/-- The text starts with a word. -/
def startsWith (word t : Text) : Bool :=
  (after? word t).isSome

/-- The text ends with a word. -/
def endsWith (word t : Text) : Bool :=
  startsWith word.reverse t.reverse

/-- The two sides of the first occurrence of a word. -/
def cutAt? (word : Text) : Text → Option (Text × Text)
  | [] => (after? word []).map fun rest => ([], rest)
  | c :: t =>
    match after? word (c :: t) with
    | some rest => some ([], rest)
    | none => (cutAt? word t).map fun sides => (c :: sides.1, sides.2)

/-- The offset of the first occurrence of a word. -/
def offsetOf? (word t : Text) : Option Nat :=
  (cutAt? word t).map fun sides => sides.1.length

/-- The word occurs in the text. -/
def contains (word t : Text) : Bool :=
  (cutAt? word t).isSome

/-- The text with the first occurrence of a word replaced, if it has
one. -/
def replaceFirst? (old new t : Text) : Option Text :=
  (cutAt? old t).map fun sides => sides.1 ++ new ++ sides.2

/-- The text with the occurrences of a word replaced. `skip` counts the
characters that the occurrence last found still covers. -/
def replaceFrom (old new : Text) : Nat → Text → Text
  | _, [] => []
  | skip + 1, _ :: t => replaceFrom old new skip t
  | 0, c :: t =>
    if startsWith old (c :: t) then new ++ replaceFrom old new (old.length - 1) t
    else c :: replaceFrom old new 0 t

/-- The text with every occurrence of a word replaced, left to right and
without overlap. -/
def replaceAll (old new t : Text) : Text :=
  replaceFrom old new 0 t

/-- The offsets of the occurrences of a word, left to right and without
overlap. `skip` counts the characters that the occurrence last found
still covers. -/
def occurrencesFrom (word : Text) : Nat → Nat → Text → List Nat
  | _, _, [] => []
  | offset, skip + 1, _ :: t => occurrencesFrom word (offset + 1) skip t
  | offset, 0, c :: t =>
    if startsWith word (c :: t) then
      offset :: occurrencesFrom word (offset + 1) (word.length - 1) t
    else occurrencesFrom word (offset + 1) 0 t

/-- The offsets of the occurrences of a word, left to right and without
overlap. -/
def occurrences (word t : Text) : List Nat :=
  occurrencesFrom word 0 0 t

/-! ## Pieces -/

/-- The pieces between the occurrences of a separator: one more than
there are separators. -/
def splitAt (sep : Char) : Text → List Text
  | [] => [[]]
  | c :: t =>
    if c = sep then [] :: splitAt sep t
    else
      match splitAt sep t with
      | [] => [[c]]
      | piece :: pieces => (c :: piece) :: pieces

/-- The maximal runs of characters inside and outside a class, each with
the class it is of. -/
def runs (p : Char → Bool) : Text → List (Bool × Text)
  | [] => []
  | c :: t =>
    match runs p t with
    | [] => [(p c, [c])]
    | (inside, run) :: rest =>
      if p c = inside then (inside, c :: run) :: rest
      else (p c, [c]) :: (inside, run) :: rest

/-- The offset that a number stands for. One below zero counts from the
end, and stops at the start. -/
def offset (t : Text) (i : Int) : Nat :=
  if i < 0 then (i + t.length).toNat else i.toNat

/-- The part of a text between two offsets. -/
def slice (t : Text) (start stop : Int) : Text :=
  (t.drop (t.offset start)).take (t.offset stop - t.offset start)

/-! ## Numerals -/

/-- A digit of base sixteen, in small letters. -/
def hexDigit (n : Nat) : Char :=
  if n < 10 then Char.ofNat (48 + n) else Char.ofNat (87 + n)

/-- The last `width` digits of a number in base sixteen. -/
def hex : Nat → Nat → Text
  | 0, _ => []
  | width + 1, n => hex width (n / 16) ++ [hexDigit (n % 16)]

/-- The value of a digit of base sixteen, in letters of either case. -/
def hexValue? (c : Char) : Option Nat :=
  if c.isDigit then some (c.toNat - 48)
  else if 'a' ≤ c && c ≤ 'f' then some (c.toNat - 87)
  else if 'A' ≤ c && c ≤ 'F' then some (c.toNat - 55)
  else none

/-- The number that digits of a base write. -/
def numeral (base : Nat) (digits : Text) : Nat :=
  digits.foldl (fun n c => n * base + (hexValue? c).getD 0) 0

end Text

end TemplateLint
