import NestedCss.Text.Numeral
/-!
# Binary floating-point numbers

Numbers with 53 binary digits and a power of two between `2 ^ -1074` and `2 ^ 971`. Every operation
is exact arithmetic on natural numbers with one rounding at its end, to the nearest number and from
the middle of two to the even one.
-/
namespace NestedCss

/-- The number `mantissa * 2 ^ exponent`, with a sign. The mantissa has 53 binary digits, or fewer
where the exponent is the least one, so that every number has one form. -/
structure Binary64 where
  /-- Whether the sign is negative; zero has both signs. -/
  negative : Bool
  /-- The binary digits as a number. -/
  mantissa : Nat
  /-- The power of two. -/
  exponent : Int
  deriving DecidableEq, Repr

namespace Binary64

/-! ### Rounding -/

/-- The number of binary digits. -/
def precision : Nat := 53

/-- The least power of two. -/
def leastExponent : Int := -1074

/-- The greatest power of two. -/
def greatestExponent : Int := 971

/-- Zero, with a sign. -/
def zero (negative : Bool) : Binary64 := ⟨negative, 0, leastExponent⟩

/-- The quotient of two numbers, rounded to the nearest whole number; a half goes to the even
neighbour. -/
def roundDiv (num den : Nat) : Nat :=
  let q := num / den
  let r := num % den
  if den < 2 * r || (den == 2 * r && q % 2 == 1) then q + 1 else q

/-- A numerator and a denominator of `num / den / base ^ e`. -/
def scaled (base num den : Nat) (e : Int) : Nat × Nat :=
  if 0 ≤ e then (num, den * base.pow e.toNat) else (num * base.pow (-e).toNat, den)

/-- The number nearest to `num / den`, if it is not too large. The quotient lies between the powers
of two on both sides of the difference of the lengths, which fixes its exponent up to one. -/
def ofRatio? (negative : Bool) (num den : Nat) : Option Binary64 :=
  if num == 0 then some (zero negative)
  else
    let e : Int := (num.log2 : Int) - den.log2 - precision
    let (n, d) := scaled 2 num den e
    let e := max (if n / d < Nat.pow 2 precision then e else e + 1) leastExponent
    let (n, d) := scaled 2 num den e
    let m := roundDiv n d
    let (m, e) := if m == Nat.pow 2 precision then (m / 2, e + 1) else (m, e)
    if greatestExponent < e then none else some ⟨negative, m, e⟩

/-- The number nearest to a whole number, if that is not too large. -/
def ofInt? (n : Int) : Option Binary64 := ofRatio? (n < 0) n.natAbs 1

/-! ### Values -/

/-- A numerator and a denominator of the number without its sign. -/
def ratio (x : Binary64) : Nat × Nat := scaled 2 x.mantissa 1 (-x.exponent)

/-- Whether the number is zero. -/
def isZero (x : Binary64) : Bool := x.mantissa == 0

/-- The number rounded towards zero. -/
def truncate (x : Binary64) : Int :=
  let (n, d) := x.ratio
  if x.negative then -((n / d : Nat) : Int) else (n / d : Nat)

/-- The whole number that the number is. -/
def toInt? (x : Binary64) : Option Int :=
  let (n, d) := x.ratio
  if n % d == 0 then some x.truncate else none

/-- The number times `2 ^ 1074`, which is a whole number. -/
def units (x : Binary64) : Int :=
  let n := x.mantissa * Nat.pow 2 (x.exponent - leastExponent).toNat
  if x.negative then -(n : Int) else n

/-- Whether one number is less than another. -/
def less (x y : Binary64) : Bool := x.units < y.units

/-- Whether two numbers have the same value. -/
def sameValue (x y : Binary64) : Bool := x.units == y.units

/-- The sum of a whole number and a fraction `num / den` that is rounded first. Both are taken to be
small enough for the sum to be one. -/
def wholeAndPart (whole : Int) (num : Int) (den : Nat) : Binary64 :=
  let part := ((ofRatio? (num < 0) num.natAbs den).getD (zero false))
  let unit := Nat.pow 2 (-leastExponent).toNat
  let n := whole * unit + part.units
  (ofRatio? (n < 0) n.natAbs unit).getD (zero false)

/-! ### Reading -/

/-- Why a text is not a number. -/
inductive Fault where
  /-- It is not written as one. -/
  | malformed
  /-- It is too large. -/
  | tooLarge
  deriving DecidableEq

/-- The letters of the two exponents: of ten, and of two behind hexadecimal digits. -/
def exponentLetter (hex : Bool) : UInt8 := if hex then 0x70 else 0x65

/-- The number that the digits of an exponent write; from five digits on the rest makes no
difference. -/
def exponentValue (digits : Text) : Nat :=
  digits.foldl (fun n c => if n < 10000 then n * 10 + (c.toNat - 0x30) else n) 0

/-- The exponent that fills a text; hexadecimal numbers have to have one. -/
def exponent? (hex : Bool) (t : Text) : Option Int :=
  match t with
  | [] => if hex then none else some 0
  | c :: rest =>
    let digits := Numeral.unsigned rest
    if Byte.toLower c == exponentLetter hex && digits.head?.any Byte.isDigit
        && digits.all (fun d => Byte.isDigit d || d == Byte.underscore) then
      let n : Int := exponentValue (digits.filter Byte.isDigit)
      some (if Numeral.isNegative rest then -n else n)
    else none

/-- The number `mantissa * base ^ exponent`, rounded. Powers that are far out of range are not
computed: their numbers are too large, or so small that zero is the nearest. -/
def ofScientific? (negative : Bool) (mantissa base : Nat) (exponent : Int) : Option Binary64 :=
  let size := ((Nat.toDigits base mantissa).length : Int) + exponent
  if mantissa == 0 || size < -1100 then some (zero negative)
  else if 1100 < size then none
  else if 0 ≤ exponent then ofRatio? negative (mantissa * base.pow exponent.toNat) 1
  else ofRatio? negative mantissa (base.pow (-exponent).toNat)

/-- Whether a text without a sign is written with hexadecimal digits. -/
def isHexadecimal (t : Text) : Bool :=
  match t with
  | 0x30 :: c :: _ :: _ => Byte.toLower c == 0x78
  | _ => false

/-- Reads a number that fills the whole text: decimal digits with a point and an exponent of ten, or
hexadecimal digits with a point and an exponent of two. -/
def parse (t : Text) : Except Fault Binary64 :=
  let number := Numeral.unsigned t
  let hex := isHexadecimal number
  let body := if hex then number.drop 2 else number
  let isDigit (c : UInt8) : Bool := Byte.isDigit c || (hex && (Byte.hexValue? c).isSome)
  let isPart (c : UInt8) : Bool := isDigit c || c == Byte.underscore
  let whole := body.takeWhile isPart
  let (part, rest) : Text × Text := match body.drop whole.length with
    | Byte.dot :: r => (r.takeWhile isPart, r.dropWhile isPart)
    | r => ([], r)
  match Numeral.digits? (if hex then 16 else 10) ((whole ++ part).filter isDigit),
      exponent? hex rest with
  | some mantissa, some e =>
    let places := (part.filter isDigit).length
    let value :=
      if hex then ofScientific? (Numeral.isNegative t) mantissa 2 (e - 4 * places)
      else ofScientific? (Numeral.isNegative t) mantissa 10 (e - places)
    if !Numeral.isSeparated number then .error .malformed
    else match value with
      | some x => .ok x
      | none => .error .tooLarge
  | _, _ => .error .malformed

end Binary64

end NestedCss
