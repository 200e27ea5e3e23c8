import NestedCss.Text.Printable
/-!
# Quoted text

The form in which messages and outlines show a text: in double quotes, printable characters as they
are, everything else as an escape. A stray byte and a control character take two hexadecimal digits,
other unprintable characters four or eight.
-/
namespace NestedCss

namespace Quoted

/-- The hexadecimal digit of a number below sixteen. -/
def hexDigit (n : Nat) : UInt8 := if n < 10 then (0x30 + n).toUInt8 else (0x57 + n).toUInt8

/-- The last `width` hexadecimal digits of `n`. -/
def hex : Nat → Nat → Text
  | 0, _ => []
  | width + 1, n => hex width (n / 16) ++ [hexDigit (n % 16)]

/-- The letter that names a control character in an escape. -/
def controlLetter? (n : Nat) : Option Char :=
  match n with
  | 0x07 => some 'a'
  | 0x08 => some 'b'
  | 0x0C => some 'f'
  | 0x0A => some 'n'
  | 0x0D => some 'r'
  | 0x09 => some 't'
  | 0x0B => some 'v'
  | _ => none

/-- The form of one character between two quotes `mark`; with `ascii`, other characters are escaped
even where they are printable. -/
def escapeCharIn (mark : Char) (ascii : Bool) (c : Char) : Text :=
  if c == mark || c == '\\' then Byte.backslash :: Utf8.encodeChar c
  else if Printable.isPrintable c && (!ascii || c.toNat < 0x80) then Utf8.encodeChar c
  else match controlLetter? c.toNat with
    | some letter => Byte.backslash :: Utf8.encodeChar letter
    | none =>
      if c.toNat < 0x80 then Text.ofString "\\x" ++ hex 2 c.toNat
      else if c.toNat < 0x10000 then Text.ofString "\\u" ++ hex 4 c.toNat
      else Text.ofString "\\U" ++ hex 8 c.toNat

/-- The form of one symbol between two quotes `mark`. -/
def escapeIn (mark : Char) (ascii : Bool) : Symbol → Text
  | .scalar c => escapeCharIn mark ascii c
  | .stray b => Text.ofString "\\x" ++ hex 2 b.toNat

/-- The form of one symbol between double quotes. -/
def escape (s : Symbol) : Text := escapeIn '"' false s

/-- A character in single quotes. -/
def char (ascii : Bool) (c : Char) : Text :=
  Byte.singleQuote :: escapeCharIn '\'' ascii c ++ [Byte.singleQuote]

end Quoted

namespace Text

/-- A text in double quotes, with escapes. -/
def quote (t : Text) : Text :=
  Byte.doubleQuote :: (Utf8.symbols t).flatMap Quoted.escape ++ [Byte.doubleQuote]

/-- A text in double quotes, with escapes for all characters that are not ASCII. -/
def quoteAscii (t : Text) : Text :=
  Byte.doubleQuote :: (Utf8.symbols t).flatMap (Quoted.escapeIn '"' true) ++ [Byte.doubleQuote]

end Text

end NestedCss
