import NestedCss.Binary64
import NestedCss.Text.Quoted
/-!
# Written forms of floating-point numbers

A number is written from its decimal digits: the fewest that read back as the same number, or as
many as asked for, rounded. They are laid out with an exponent, positionally, or in the shorter of
the two ways; and there are two forms with the binary digits themselves.
-/
namespace NestedCss.Binary64

/-! ### Decimal digits -/

/-- The number `0.digits * 10 ^ point`. -/
structure Digits where
  /-- The digits, without zeros at either end; zero has none. -/
  digits : Text
  /-- The power of ten. -/
  point : Int

/-- The digits of the number `n * 10 ^ exponent`. -/
def Digits.ofNat (n : Nat) (exponent : Int) : Digits :=
  if n == 0 then ⟨[], 0⟩
  else
    let ds := Text.ofNat n
    ⟨Text.trimRightBy (· == 0x30) ds, ds.length + exponent⟩

/-- The power of ten just above `num / den`, which is not zero. -/
def pointOf (num den : Nat) : Int :=
  if den ≤ num then (Text.ofNat (num / den)).length
  else
    let q := (den - 1) / num
    1 - ((Text.ofNat q).length : Int)

/-- The whole numbers around `x * 10 ^ places`, and the nearest of them. -/
def around (x : Binary64) (places : Int) : Nat × Nat :=
  let (n, d) := x.ratio
  let (n, d) := scaled 10 n d (-places)
  (n / d, roundDiv n d)

/-- The number with `count` digits that is nearest to `x`, of those that read back as `x`. -/
def readsBack? (x : Binary64) (point : Int) (count : Nat) : Option Digits :=
  let places := count - point
  let (low, nearest) := around x places
  let other := if nearest == low then low + 1 else low
  let back (n : Nat) : Bool := ofScientific? x.negative n 10 (-places) == some x
  ([nearest, other].find? back).map fun n => Digits.ofNat n (-places)

/-- The fewest digits that read back as `x`. Seventeen are always enough. -/
def shortest (x : Binary64) : Digits :=
  if x.isZero then ⟨[], 0⟩
  else
    let (n, d) := x.ratio
    let point := pointOf n d
    ((List.range 17).findSome? fun i => x.readsBack? point (i + 1)).getD ⟨[], 0⟩

/-- `count` digits of `x`, rounded. -/
def rounded (x : Binary64) (count : Nat) : Digits :=
  if x.isZero then ⟨[], 0⟩
  else
    let (n, d) := x.ratio
    let places := count - pointOf n d
    Digits.ofNat (x.around places).2 (-places)

/-- The digits of `x` up to `count` places behind the point, rounded. -/
def roundedAt (x : Binary64) (count : Nat) : Digits := Digits.ofNat (x.around count).2 (-count)

/-! ### Layouts -/

/-- A power with its sign, and at least `width` digits. -/
def powerText (width : Nat) (e : Int) : Text :=
  let ds := Text.ofNat e.natAbs
  [if e < 0 then Byte.hyphen else Byte.plus] ++ List.replicate (width - ds.length) 0x30 ++ ds

namespace Digits

/-- One digit, a point and `places` more digits, and an exponent behind `letter`. -/
def withExponent (d : Digits) (places : Nat) (letter : UInt8) : Text :=
  let more := (d.digits.drop 1).take places
  [d.digits.headD 0x30]
    ++ (if places == 0 then [] else
      Byte.dot :: (more ++ List.replicate (places - more.length) 0x30))
    ++ letter :: powerText 2 (if d.digits.isEmpty then 0 else d.point - 1)

/-- The digit `i` places behind the front of the number. -/
def digitAt (d : Digits) (i : Int) : UInt8 :=
  if i < 0 then 0x30 else d.digits.getD i.toNat 0x30

/-- Digits with a point and `places` digits behind it. -/
def positional (d : Digits) (places : Nat) : Text :=
  let whole : Text :=
    if d.point ≤ 0 then [0x30]
    else (List.range d.point.toNat).map fun (i : Nat) => d.digitAt i
  whole ++ if places == 0 then [] else
    Byte.dot :: (List.range places).map fun (i : Nat) => d.digitAt (d.point + i)

/-- The layout with an exponent for numbers below `10 ^ -4` and for those that have more than
`limit` digits in front of the point, and the positional one for all others; both with at most
`count` digits. -/
def general (d : Digits) (count limit : Nat) (letter : UInt8) : Text :=
  let size := d.digits.length
  let lead := d.point - 1
  if lead < -4 || (limit : Int) ≤ lead then d.withExponent (min count size - 1) letter
  else
    let count : Int := if d.point < count then size else count
    d.positional (count - d.point).toNat

end Digits

/-! ### Forms -/

/-- The forms in which numbers are written. -/
inductive Form where
  /-- With an exponent. -/
  | exponent
  /-- Positionally. -/
  | positional
  /-- In the shorter of these ways. -/
  | general
  /-- With hexadecimal digits and a power of two. -/
  | hexadecimal
  /-- With the mantissa and the exponent as they are. -/
  | binary
  deriving DecidableEq

/-- The hexadecimal form: the binary digits behind the first one in groups of four, at most `places`
of them where that is given. -/
def hexForm (x : Binary64) (places : Option Nat) (upper : Bool) : Text :=
  let length := if x.isZero then 0 else x.mantissa.log2
  let e : Int := if x.isZero then 0 else x.exponent + length
  let digits := x.mantissa * Nat.pow 2 (60 - length)
  let (digits, e) := match places with
    | some p =>
      if 15 ≤ p then (digits, e)
      else
        let unit := Nat.pow 2 (60 - 4 * p)
        let kept := roundDiv digits unit * unit
        if kept < Nat.pow 2 61 then (kept, e) else (kept / 2, e + 1)
    | none => (digits, e)
  let all := Quoted.hex 15 (digits % Nat.pow 2 60)
  let part := match places with
    | some p => all.take p ++ List.replicate (p - 15) 0x30
    | none => Text.trimRightBy (· == 0x30) all
  let text := Text.ofString "0x" ++ [(0x30 + digits / Nat.pow 2 60).toUInt8]
    ++ (if part.isEmpty then [] else Byte.dot :: part) ++ 0x70 :: powerText 2 e
  if upper then text.map fun c => if Byte.isLower c then c - 0x20 else c else text

/-- The written form of a number without its sign. Without `places`, as many digits are written as
the number needs. -/
def write (x : Binary64) (form : Form) (places : Option Nat) (upper : Bool) : Text :=
  let letter : UInt8 := if upper then 0x45 else 0x65
  match form, places with
  | .exponent, none =>
    let d := x.shortest
    d.withExponent (d.digits.length - 1) letter
  | .exponent, some p => (x.rounded (p + 1)).withExponent p letter
  | .positional, none =>
    let d := x.shortest
    d.positional (d.digits.length - d.point).toNat
  | .positional, some p => (x.roundedAt p).positional p
  | .general, none =>
    let d := x.shortest
    d.general d.digits.length 6 letter
  | .general, some p =>
    let count := max p 1
    let d := x.rounded count
    let size := d.digits.length
    let limit := if size < count && d.point ≤ size then size else count
    d.general count limit letter
  | .hexadecimal, places => x.hexForm places upper
  | .binary, _ => Text.ofNat x.mantissa ++ 0x70 :: powerText 1 x.exponent

/-- A number in its shortest form. -/
def toText (x : Binary64) : Text :=
  (if x.negative then [Byte.hyphen] else []) ++ x.write .general none false

end NestedCss.Binary64
