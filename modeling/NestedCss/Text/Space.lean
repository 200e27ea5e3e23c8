import NestedCss.Text.Utf8
/-!
# Blank characters

The blanks that may surround names given by a user: the white space characters of Unicode, which
are more than the six blank bytes of the style language.
-/
namespace NestedCss

/-- Whether a character is white space. -/
def Symbol.isSpaceChar (c : Char) : Bool :=
  [0x09, 0x0A, 0x0B, 0x0C, 0x0D, 0x20, 0x85, 0xA0, 0x1680, 0x2028, 0x2029, 0x202F, 0x205F,
    0x3000].contains c.toNat || (0x2000 ≤ c.toNat && c.toNat ≤ 0x200A)

/-- Whether a symbol is a white space character. -/
def Symbol.isSpace : Symbol → Bool
  | .scalar c => isSpaceChar c
  | .stray _ => false

/-- A text without the white space characters at both ends. -/
def Text.trimSpace (t : Text) : Text :=
  (((Utf8.symbols t).dropWhile Symbol.isSpace).reverse.dropWhile
    Symbol.isSpace).reverse.flatMap Symbol.bytes

end NestedCss
