import NestedCss.Text.Utf8
/-!
# Encodings of Unicode

Decoders for UTF-8, UTF-16 and UTF-32 that never fail: what is no character of the encoding is read
as the replacement character U+FFFD.
-/
namespace NestedCss.Encoding

/-- The order of the bytes of a unit. -/
inductive ByteOrder where
  /-- The most significant byte first. -/
  | big
  /-- The least significant byte first. -/
  | little
  deriving DecidableEq, Repr

/-- The number that bytes in an order stand for. -/
def ByteOrder.unit (order : ByteOrder) (bytes : Text) : Nat :=
  let ordered : Text := match order with
    | .big => bytes
    | .little => bytes.reverse
  ordered.foldl (fun n b => n * 256 + b.toNat) 0

/-- The character with a code point, or the replacement character where there is none. -/
def scalar (n : Nat) : Char := if n.isValidChar then Char.ofNat n else Symbol.replacement

/-! ### UTF-8 -/

namespace Utf8

/-- The length of the longest front part of an ill-formed sequence that could have become a
character. -/
def subpart : Text → Nat
  | a :: b :: c :: _ =>
    if !(0xC2 ≤ a && a ≤ 0xF4) || a < 0xE0 || !NestedCss.Utf8.isSecond a b then 1
    else if a < 0xF0 || !NestedCss.Utf8.isTail c then 2 else 3
  | [a, b] =>
    if !(0xC2 ≤ a && a ≤ 0xF4) || a < 0xE0 || !NestedCss.Utf8.isSecond a b then 1 else 2
  | _ => 1

/-- Reads characters; `skip` bytes belong to the one read last. -/
def decodeFrom : Nat → Text → List Char
  | _, [] => []
  | skip + 1, _ :: r => decodeFrom skip r
  | 0, b :: r =>
    match NestedCss.Utf8.first? (b :: r) with
    | some (.scalar c, n) => c :: decodeFrom (n - 1) r
    | _ => Symbol.replacement :: decodeFrom (subpart (b :: r) - 1) r

/-- The characters of UTF-8 text; each longest broken part of a character is read as one replacement
character. -/
def decode (t : Text) : List Char := decodeFrom 0 t

end Utf8

/-! ### UTF-16 -/

namespace Utf16

/-- A surrogate of either half. -/
def isSurrogate (n : Nat) : Bool := 0xD800 ≤ n && n < 0xE000

/-- A surrogate of the second half. -/
def isSecondHalf (n : Nat) : Bool := 0xDC00 ≤ n && n < 0xE000

/-- The character of a surrogate with one of the second half behind it; only a first half makes a
character. -/
def pair (n m : Nat) : Char :=
  if isSecondHalf n then Symbol.replacement
  else scalar ((n - 0xD800) * 0x400 + (m - 0xDC00) + 0x10000)

/-- The characters of UTF-16 text. A surrogate takes a second half behind it along, and a byte left
over at the end is no character. -/
def decode (order : ByteOrder) : Text → List Char
  | [] => []
  | [_] => [Symbol.replacement]
  | [a, b] => [scalar (order.unit [a, b])]
  | [a, b, _] => [scalar (order.unit [a, b]), Symbol.replacement]
  | a :: b :: rest@(c :: d :: r) =>
    let n := order.unit [a, b]
    let m := order.unit [c, d]
    if isSurrogate n && isSecondHalf m then pair n m :: decode order r
    else scalar n :: decode order rest

end Utf16

/-! ### UTF-32 -/

namespace Utf32

/-- The characters of UTF-32 text. Bytes left over at the end are together no character. -/
def decode (order : ByteOrder) : Text → List Char
  | [] => []
  | a :: b :: c :: d :: r => scalar (order.unit [a, b, c, d]) :: decode order r
  | _ => [Symbol.replacement]

end Utf32

end NestedCss.Encoding
