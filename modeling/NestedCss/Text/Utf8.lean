import NestedCss.Text
/-!
# UTF-8 views of a text

A text is read as a list of symbols: `Symbol.scalar` for a well-formed UTF-8 sequence and
`Symbol.stray` for a byte that belongs to none. No byte is lost, so writing the symbols back gives
the text again. Columns of positions count symbols, quoting escapes stray bytes, and the case maps
read a stray byte as U+FFFD.
-/
namespace NestedCss

/-- One step of reading a text as UTF-8. -/
inductive Symbol where
  /-- A Unicode scalar value, written as a well-formed sequence. -/
  | scalar (c : Char)
  /-- A byte that starts no well-formed sequence. -/
  | stray (b : UInt8)
  deriving DecidableEq, Repr

namespace Symbol

/-- U+FFFD, which stands for what cannot be read. -/
def replacement : Char := Char.ofNat 0xFFFD

/-- The character a symbol is read as: a stray byte is U+FFFD. -/
def toChar : Symbol → Char
  | scalar c => c
  | stray _ => replacement

end Symbol

namespace Utf8

/-- The bytes of one scalar value. -/
def encodeChar (c : Char) : Text := String.utf8EncodeChar c

/-- The bytes of a list of scalar values. -/
def encode (cs : List Char) : Text := cs.flatMap encodeChar

end Utf8

/-- The bytes of a symbol. -/
def Symbol.bytes : Symbol → Text
  | .scalar c => Utf8.encodeChar c
  | .stray b => [b]

namespace Utf8

/-- A continuation byte. -/
def isTail (b : UInt8) : Bool := 0x80 ≤ b && b ≤ 0xBF

/-- The least byte that may follow the first byte `a` of a sequence of several. -/
def secondMin (a : UInt8) : UInt8 := if a == 0xE0 then 0xA0 else if a == 0xF0 then 0x90 else 0x80

/-- The greatest byte that may follow the first byte `a` of a sequence of several. -/
def secondMax (a : UInt8) : UInt8 := if a == 0xED then 0x9F else if a == 0xF4 then 0x8F else 0xBF

/-- Whether `b` may follow the first byte `a`; this keeps out overlong forms, surrogates and values
above U+10FFFF. -/
def isSecond (a b : UInt8) : Bool := secondMin a ≤ b && b ≤ secondMax a

/-- The scalar value with the given bits. -/
def charOf (n : Nat) : Char := Char.ofNat n

/-- The symbol at the front of a text and the number of bytes it takes, which is never zero. -/
def first? : Text → Option (Symbol × Nat)
  | [] => none
  | a :: rest =>
    if a < 0x80 then some (.scalar (charOf a.toNat), 1)
    else if 0xC2 ≤ a && a ≤ 0xDF then
      match rest with
      | b :: _ =>
        if isTail b then
          some (.scalar (charOf ((a.toNat - 0xC0) * 0x40 + (b.toNat - 0x80))), 2)
        else some (.stray a, 1)
      | [] => some (.stray a, 1)
    else if 0xE0 ≤ a && a ≤ 0xEF then
      match rest with
      | b :: c :: _ =>
        if isSecond a b && isTail c then
          some (.scalar (charOf
            ((a.toNat - 0xE0) * 0x1000 + (b.toNat - 0x80) * 0x40 + (c.toNat - 0x80))), 3)
        else some (.stray a, 1)
      | _ => some (.stray a, 1)
    else if 0xF0 ≤ a && a ≤ 0xF4 then
      match rest with
      | b :: c :: d :: _ =>
        if isSecond a b && isTail c && isTail d then
          some (.scalar (charOf ((a.toNat - 0xF0) * 0x40000 + (b.toNat - 0x80) * 0x1000
            + (c.toNat - 0x80) * 0x40 + (d.toNat - 0x80))), 4)
        else some (.stray a, 1)
      | _ => some (.stray a, 1)
    else some (.stray a, 1)

/-- Reads symbols from left to right; `skip` counts the bytes of the current symbol that are still
to be passed over. -/
def symbolsFrom : Nat → Text → List Symbol
  | _, [] => []
  | skip + 1, _ :: rest => symbolsFrom skip rest
  | 0, a :: rest =>
    match first? (a :: rest) with
    | some (s, width) => s :: symbolsFrom (width - 1) rest
    | none => []

/-- The symbols of a text. -/
def symbols (t : Text) : List Symbol := symbolsFrom 0 t

/-- The characters of a text, with U+FFFD for each stray byte. -/
def chars (t : Text) : List Char := (symbols t).map Symbol.toChar

/-- The first `n` symbols of a text. -/
def take (n : Nat) (t : Text) : Text := ((symbols t).take n).flatMap Symbol.bytes

/-- The number of symbols of a text. -/
def count (t : Text) : Nat := (symbols t).length

/-- Whether a text has no stray byte. -/
def isValid (t : Text) : Bool :=
  (symbols t).all fun
    | .scalar _ => true
    | .stray _ => false

/-- A text in which each stray byte has become U+FFFD. -/
def repair (t : Text) : Text := encode (chars t)

/-- The text with `f` applied to each character; stray bytes are read as U+FFFD. -/
def mapChars (f : Char → Char) (t : Text) : Text := encode ((chars t).map f)

end Utf8

end NestedCss
