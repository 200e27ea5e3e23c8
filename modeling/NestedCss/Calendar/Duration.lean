import NestedCss.Calendar
/-!
# Lengths of time

Lengths of time in nanoseconds, which fit 64 bits with a sign, and their written form.
-/
namespace NestedCss

/-- A length of time in nanoseconds. -/
structure Duration where
  /-- The number of nanoseconds. -/
  nanoseconds : Int
  deriving DecidableEq, Repr

namespace Duration

/-- The number of nanoseconds of a second. -/
def second : Nat := 1000000000

/-- The longest length of time. -/
def greatest : Int := Int.pow 2 63 - 1

/-- The length of time of a number of nanoseconds; one that is too long becomes the longest. -/
def clamp (n : Int) : Duration := ⟨max (-Int.pow 2 63) (min n greatest)⟩

/-! ### Rounding -/

/-- The length of time without what is left when it is divided by another one. -/
def truncate (d unit : Duration) : Duration :=
  if unit.nanoseconds ≤ 0 then d
  else ⟨d.nanoseconds - d.nanoseconds.tmod unit.nanoseconds⟩

/-- The nearest multiple of another length of time; from the middle it goes away from zero. -/
def round (d unit : Duration) : Duration :=
  let m := unit.nanoseconds
  if m ≤ 0 then d
  else
    let r := (d.nanoseconds.tmod m).natAbs
    let near : Int := if 2 * (r : Int) < m then -r else m - r
    clamp (if d.nanoseconds < 0 then d.nanoseconds - near else d.nanoseconds + near)

/-- The length of time without its sign. -/
def abs (d : Duration) : Duration := clamp d.nanoseconds.natAbs

/-! ### Written form -/

/-- The number `n / 10 ^ places` without zeros at its end. -/
def decimalText (n places : Nat) : Text :=
  let part := Text.trimRightBy (· == 0x30) (DateTime.digits places 0x30 (n % Nat.pow 10 places))
  Text.ofNat (n / Nat.pow 10 places) ++
    if places == 0 || part.isEmpty then [] else Byte.dot :: part

/-- Hours, minutes and seconds, without those at the front that are zero; less than a second is
written in the unit that suits. -/
def toText (d : Duration) : Text :=
  let n := d.nanoseconds.natAbs
  let body : Text :=
    if n == 0 then Text.ofString "0s"
    else if n < 1000 then decimalText n 0 ++ Text.ofString "ns"
    else if n < 1000000 then decimalText n 3 ++ Text.ofString "µs"
    else if n < second then decimalText n 6 ++ Text.ofString "ms"
    else
      let minutes := n / (60 * second)
      let hours := minutes / 60
      (if hours == 0 then [] else Text.ofNat hours ++ Text.ofString "h")
        ++ (if minutes == 0 then [] else Text.ofNat (minutes % 60) ++ Text.ofString "m")
        ++ decimalText (n % (60 * second)) 9 ++ Text.ofString "s"
  if d.nanoseconds < 0 then Byte.hyphen :: body else body

end Duration

namespace DateTime

/-- The point in time a length of time later. -/
def add (t : DateTime) (d : Duration) : DateTime := ofNanoseconds (t.nanoseconds + d.nanoseconds)

/-- The length of time from one point in time to another. -/
def since (t u : DateTime) : Duration := Duration.clamp (t.nanoseconds - u.nanoseconds)

/-- What is left when the time since the start of the year one is divided by a length of time. -/
def remainder (t : DateTime) (d : Duration) : Int :=
  (t.seconds * Duration.second + t.nanosecond) % d.nanoseconds

/-- The last multiple of a length of time since the start of the year one. -/
def truncate (t : DateTime) (d : Duration) : DateTime :=
  if d.nanoseconds ≤ 0 then t else t.add ⟨-t.remainder d⟩

/-- The nearest multiple of a length of time since the start of the year one; from the middle it is
the later one. -/
def round (t : DateTime) (d : Duration) : DateTime :=
  if d.nanoseconds ≤ 0 then t
  else
    let r := t.remainder d
    if 2 * r < d.nanoseconds then t.add ⟨-r⟩ else t.add ⟨d.nanoseconds - r⟩

end DateTime

end NestedCss
