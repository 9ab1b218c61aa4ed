import TemplateLint.Text.Basic
/-!
# Text — UTF-8

The octets of a text and the text of some octets. Decoding runs one octet
at a time: a lead octet says how many more are owed and within which
bounds the next one lies, and the first octet out of bounds, or the end
of the octets while some are owed, is the error, with the place of the
sequence it broke.
-/

namespace TemplateLint

namespace Text

/-- The octets of one character. -/
def encodeChar (c : Char) : List UInt8 :=
  let n := c.toNat
  let tail (unit : Nat) : UInt8 := UInt8.ofNat (0x80 + n / unit % 0x40)
  if n < 0x80 then [UInt8.ofNat n]
  else if n < 0x800 then [UInt8.ofNat (0xC0 + n / 0x40), tail 1]
  else if n < 0x10000 then [UInt8.ofNat (0xE0 + n / 0x1000), tail 0x40, tail 1]
  else [UInt8.ofNat (0xF0 + n / 0x40000), tail 0x1000, tail 0x40, tail 1]

/-- The octets of a text. -/
def encode (t : Text) : List UInt8 :=
  t.flatMap encodeChar

/-- The octets that digits of base sixteen write, two for each. -/
def octetsOfHex : Text → List UInt8
  | a :: b :: t => UInt8.ofNat (numeral 16 [a, b]) :: octetsOfHex t
  | _ => []

/-- Why octets are no text. -/
inductive DecodingFlaw where
  /-- The octet starts no character. -/
  | badStart
  /-- The octet does not continue the character before it. -/
  | badContinuation
  /-- The octets end inside a character. -/
  | cutShort
  deriving DecidableEq, Repr

/-- The flaw and where the broken sequence lies: its first octet and its
length. -/
structure DecodingError where
  flaw : DecodingFlaw
  start : Nat
  length : Nat
  octet : UInt8
  deriving DecidableEq, Repr

/-- A character under way: its first octet and the place of it, the
octets read, the number still owed, the bounds of the next one, and the
value so far. -/
structure Pending where
  lead : UInt8
  start : Nat
  read : Nat
  owed : Nat
  low : Nat
  high : Nat
  value : Nat
  deriving DecidableEq, Repr

/-- The character that a lead octet opens, with the octets it owes. -/
def open? (octet : UInt8) (start : Nat) : Option Pending :=
  let n := octet.toNat
  let pending owed low high value : Option Pending :=
    some ⟨octet, start, 1, owed, low, high, value⟩
  if n < 0xC2 then none
  else if n < 0xE0 then pending 1 0x80 0xBF (n - 0xC0)
  else if n < 0xF0 then
    pending 2 (if n = 0xE0 then 0xA0 else 0x80) (if n = 0xED then 0x9F else 0xBF) (n - 0xE0)
  else if n < 0xF5 then
    pending 3 (if n = 0xF0 then 0x90 else 0x80) (if n = 0xF4 then 0x8F else 0xBF) (n - 0xF0)
  else none

/-- The text of octets whose first is at a place, after a pending
character if there is one. -/
def decodeFrom : Nat → Option Pending → List UInt8 → Except DecodingError Text
  | _, none, [] => .ok []
  | _, some p, [] => .error ⟨.cutShort, p.start, p.read, p.lead⟩
  | place, none, octet :: rest =>
    if octet.toNat < 0x80 then
      (decodeFrom (place + 1) none rest).map (Char.ofNat octet.toNat :: ·)
    else
      match open? octet place with
      | none => .error ⟨.badStart, place, 1, octet⟩
      | some p => decodeFrom (place + 1) (some p) rest
  | place, some p, octet :: rest =>
    let n := octet.toNat
    if n < p.low || p.high < n then .error ⟨.badContinuation, p.start, p.read, p.lead⟩
    else
      let value := p.value * 64 + (n - 0x80)
      if p.owed ≤ 1 then (decodeFrom (place + 1) none rest).map (Char.ofNat value :: ·)
      else
        decodeFrom (place + 1)
          (some { p with read := p.read + 1, owed := p.owed - 1, low := 0x80, high := 0xBF,
                         value := value }) rest

/-- The text of some octets. -/
def decode (octets : List UInt8) : Except DecodingError Text :=
  decodeFrom 0 none octets

/-- The words for a flaw. -/
def DecodingFlaw.words : DecodingFlaw → String
  | .badStart => "invalid start byte"
  | .badContinuation => "invalid continuation byte"
  | .cutShort => "unexpected end of data"

/-- The report of a decoding error: one octet is shown, several are named
by their places. -/
def DecodingError.message (e : DecodingError) : String :=
  let what :=
    if e.length = 1 then
      let shown := String.ofList (hex 2 e.octet.toNat)
      s!"byte 0x{shown} in position {e.start}"
    else
      let last := e.start + e.length - 1
      s!"bytes in position {e.start}-{last}"
  "'utf-8' codec can't decode " ++ what ++ ": " ++ e.flaw.words

end Text

end TemplateLint
