import TemplateLint.Text.Basic
/-!
# Values — binary fractions and their decimal text

A double-precision number, held as the integers that make it up: sign,
mantissa and a power of two. `ofDecimal` reads a decimal by exact rounding
to nearest, an even mantissa on a tie. `shortest` finds the fewest decimal
digits that read back as the number, and among those the nearest to it.
`spelled` sets them positionally below `10^16` and down to `10^-4`, and
with an exponent of two digits or more elsewhere.
-/

namespace TemplateLint

/-- A double-precision number: `± mantissa · 2^exponent`, an infinity, or
no number. A finite one is held with the exponent that rounding gives it,
so that equal numbers of one sign are equal here. -/
inductive Binary64 where
  | finite (negative : Bool) (mantissa : Nat) (exponent : Int)
  | infinite (negative : Bool)
  | nan
  deriving DecidableEq, Repr

namespace Binary64

/-- The least exponent of a finite number. -/
def leastExponent : Int := -1074

/-- The greatest exponent of a finite number. -/
def greatestExponent : Int := 971

/-- A quotient rounded to the nearest natural number, to the even one on a
tie. -/
def roundDiv (num den : Nat) : Nat :=
  let q := num / den
  let r := num % den
  if 2 * r > den || (2 * r = den && q % 2 = 1) then q + 1 else q

/-- Numerator and denominator of `base ^ power`. -/
def powerRatio (base : Nat) (power : Int) : Nat × Nat :=
  if power < 0 then (1, base.pow (-power).toNat) else (base.pow power.toNat, 1)

/-- `base ^ power ≤ num / den`. -/
def reaches (base : Nat) (power : Int) (num den : Nat) : Bool :=
  let (n, d) := powerRatio base power
  n * den ≤ num * d

/-- The number nearest to a quotient. -/
def ofRatio (negative : Bool) (num den : Nat) : Binary64 :=
  if num = 0 then .finite negative 0 leastExponent
  else
    let guess : Int := (Nat.log2 num : Int) - Nat.log2 den
    let scale := if reaches 2 guess num den then guess else guess - 1
    let exponent := max (scale - 52) leastExponent
    let (n, d) := powerRatio 2 exponent
    let mantissa := roundDiv (num * d) (den * n)
    -- A mantissa rounded up to `2^53` is `2^52` of twice the size.
    let (mantissa, exponent) :=
      if mantissa = 0x20000000000000 then (0x10000000000000, exponent + 1) else (mantissa, exponent)
    if exponent > greatestExponent then .infinite negative
    else .finite negative mantissa exponent

/-- The number nearest to `digits · 10^power`. -/
def ofDecimal (negative : Bool) (digits : Nat) (power : Int) : Binary64 :=
  let size : Int := (Nat.toDigits 10 digits).length + power
  if digits = 0 || size < -400 then .finite negative 0 leastExponent
  else if size > 400 then .infinite negative
  else
    let (n, d) := powerRatio 10 power
    ofRatio negative (digits * n) d

/-- Numerator and denominator of a finite number without its sign. -/
def ratio (mantissa : Nat) (exponent : Int) : Nat × Nat :=
  let (n, d) := powerRatio 2 exponent
  (mantissa * n, d)

/-- The whole number that a number is. -/
def whole? : Binary64 → Option Int
  | .finite negative mantissa exponent =>
    let (num, den) := ratio mantissa exponent
    if num % den = 0 then some (if negative then -(num / den : Nat) else (num / den : Nat))
    else none
  | _ => none

/-- The power of ten just below a positive quotient. -/
def decimalScale (num den : Nat) : Int :=
  let guess : Int := (((Nat.log2 num : Int) - Nat.log2 den) * 30103) / 100000 - 1
  let step (k : Int) : Int := if reaches 10 (k + 1) num den then k + 1 else k
  step (step (step guess))

/-- The decimal with a count of digits, of the two next to the number,
that reads back as it; the nearer one if both do, and the even one on a
tie. -/
def decimalWith? (mantissa : Nat) (exponent : Int) (count : Nat) : Option (Nat × Int) :=
  let (num, den) := ratio mantissa exponent
  let unit := decimalScale num den - count + 1
  let (n, d) := powerRatio 10 unit
  let below := (num * d) / (den * n)
  let reads (digits : Nat) : Bool := ofDecimal false digits unit == .finite false mantissa exponent
  match reads below, reads (below + 1) with
  | true, true => some (roundDiv (num * d) (den * n), unit)
  | true, false => some (below, unit)
  | false, true => some (below + 1, unit)
  | false, false => none

/-- The fewest digits that read back as a positive number, with the power
of ten of the last one. Seventeen always do. -/
def shortest (mantissa : Nat) (exponent : Int) : Nat × Int :=
  ((List.range 17).findSome? fun k => decimalWith? mantissa exponent (k + 1)).getD (0, 0)

/-- The digits of a natural number. -/
def digitsOf (n : Nat) : Text :=
  Nat.toDigits 10 n

/-- The text of `0.digits · 10^point`. -/
def setDigits (digits : Text) (point : Int) : Text :=
  let count : Int := digits.length
  if point ≤ -4 || point > 16 then
    let power := point - 1
    let fraction := if digits.length > 1 then '.' :: digits.drop 1 else []
    let shown := digitsOf power.natAbs
    digits.take 1 ++ fraction ++ ['e', if power < 0 then '-' else '+']
      ++ (if shown.length < 2 then '0' :: shown else shown)
  else if point ≤ 0 then '0' :: '.' :: List.replicate (-point).toNat '0' ++ digits
  else if count ≤ point then digits ++ List.replicate (point - count).toNat '0' ++ ['.', '0']
  else digits.take point.toNat ++ '.' :: digits.drop point.toNat

/-- The digits of the shortest decimal, its trailing zeros dropped, and
the place of the point before them. -/
def spelledPositive (mantissa : Nat) (exponent : Int) : Text :=
  let (digits, unit) := shortest mantissa exponent
  let shown := digitsOf digits
  setDigits (Text.dropEnd (· = '0') shown) (shown.length + unit)

/-- A number in decimal. -/
def spelled : Binary64 → Text
  | .nan => ['n', 'a', 'n']
  | .infinite negative => (if negative then ['-'] else []) ++ ['i', 'n', 'f']
  | .finite negative mantissa exponent =>
    (if negative then ['-'] else [])
      ++ if mantissa = 0 then ['0', '.', '0'] else spelledPositive mantissa exponent

end Binary64

end TemplateLint
