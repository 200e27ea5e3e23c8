/-!
# Text

Style sheets, paths and messages are byte strings: they usually hold UTF-8, but nothing forces them
to. This module fixes the type `Text`, the names of the bytes the style language gives a meaning
to, and the small vocabulary of cutting and joining that every other module uses.

The blank bytes are exactly six (`Byte.isBlank`): space, tab, line feed, carriage return, form feed
and vertical tab.
-/
namespace NestedCss

/-- A byte string. -/
abbrev Text := List UInt8

/-! ### Bytes with a name -/

namespace Byte

/-- Horizontal tab. -/
@[match_pattern] abbrev tab : UInt8 := 0x09
/-- Line feed. -/
@[match_pattern] abbrev lineFeed : UInt8 := 0x0A
/-- Vertical tab. -/
@[match_pattern] abbrev verticalTab : UInt8 := 0x0B
/-- Form feed. -/
@[match_pattern] abbrev formFeed : UInt8 := 0x0C
/-- Carriage return. -/
@[match_pattern] abbrev carriageReturn : UInt8 := 0x0D
/-- Space. -/
@[match_pattern] abbrev space : UInt8 := 0x20
/-- The double quote. -/
@[match_pattern] abbrev doubleQuote : UInt8 := 0x22
/-- The number sign. -/
@[match_pattern] abbrev hash : UInt8 := 0x23
/-- The dollar sign. -/
@[match_pattern] abbrev dollar : UInt8 := 0x24
/-- The percent sign. -/
@[match_pattern] abbrev percent : UInt8 := 0x25
/-- The ampersand, which stands for the enclosing selector. -/
@[match_pattern] abbrev ampersand : UInt8 := 0x26
/-- The single quote. -/
@[match_pattern] abbrev singleQuote : UInt8 := 0x27
/-- The opening parenthesis. -/
@[match_pattern] abbrev openParen : UInt8 := 0x28
/-- The closing parenthesis. -/
@[match_pattern] abbrev closeParen : UInt8 := 0x29
/-- The asterisk. -/
@[match_pattern] abbrev star : UInt8 := 0x2A
/-- The plus sign. -/
@[match_pattern] abbrev plus : UInt8 := 0x2B
/-- The comma. -/
@[match_pattern] abbrev comma : UInt8 := 0x2C
/-- The hyphen. -/
@[match_pattern] abbrev hyphen : UInt8 := 0x2D
/-- The full stop. -/
@[match_pattern] abbrev dot : UInt8 := 0x2E
/-- The slash. -/
@[match_pattern] abbrev slash : UInt8 := 0x2F
/-- The colon. -/
@[match_pattern] abbrev colon : UInt8 := 0x3A
/-- The semicolon. -/
@[match_pattern] abbrev semicolon : UInt8 := 0x3B
/-- The less-than sign. -/
@[match_pattern] abbrev less : UInt8 := 0x3C
/-- The equals sign. -/
@[match_pattern] abbrev equals : UInt8 := 0x3D
/-- The greater-than sign, the child combinator. -/
@[match_pattern] abbrev greater : UInt8 := 0x3E
/-- The question mark. -/
@[match_pattern] abbrev question : UInt8 := 0x3F
/-- The at sign, which opens an at-rule. -/
@[match_pattern] abbrev atSign : UInt8 := 0x40
/-- The opening square bracket. -/
@[match_pattern] abbrev openBracket : UInt8 := 0x5B
/-- The backslash. -/
@[match_pattern] abbrev backslash : UInt8 := 0x5C
/-- The closing square bracket. -/
@[match_pattern] abbrev closeBracket : UInt8 := 0x5D
/-- The circumflex. -/
@[match_pattern] abbrev caret : UInt8 := 0x5E
/-- The underscore. -/
@[match_pattern] abbrev underscore : UInt8 := 0x5F
/-- The backquote. -/
@[match_pattern] abbrev backquote : UInt8 := 0x60
/-- The opening brace. -/
@[match_pattern] abbrev openBrace : UInt8 := 0x7B
/-- The vertical bar. -/
@[match_pattern] abbrev bar : UInt8 := 0x7C
/-- The closing brace. -/
@[match_pattern] abbrev closeBrace : UInt8 := 0x7D
/-- The tilde, the sibling combinator. -/
@[match_pattern] abbrev tilde : UInt8 := 0x7E

/-- The six blank bytes. -/
def isBlank (c : UInt8) : Bool :=
  c == space || c == tab || c == lineFeed || c == carriageReturn || c == formFeed
    || c == verticalTab

/-- An ASCII lower case letter. -/
def isLower (c : UInt8) : Bool := 0x61 ≤ c && c ≤ 0x7A

/-- An ASCII upper case letter. -/
def isUpper (c : UInt8) : Bool := 0x41 ≤ c && c ≤ 0x5A

/-- An ASCII letter. -/
def isLetter (c : UInt8) : Bool := isLower c || isUpper c

/-- An ASCII digit. -/
def isDigit (c : UInt8) : Bool := 0x30 ≤ c && c ≤ 0x39

/-- A byte below 0x80. -/
def isAscii (c : UInt8) : Bool := c < 0x80

/-- The lower case of an ASCII letter; every other byte is left alone. -/
def toLower (c : UInt8) : UInt8 := if isUpper c then c + 0x20 else c

/-- The value of a hexadecimal digit. -/
def hexValue? (c : UInt8) : Option Nat :=
  if isDigit c then some (c.toNat - 0x30)
  else if 0x61 ≤ c && c ≤ 0x66 then some (c.toNat - 0x57)
  else if 0x41 ≤ c && c ≤ 0x46 then some (c.toNat - 0x37)
  else none

end Byte

/-! ### Cutting and joining -/

namespace Text

/-- The UTF-8 bytes of a string. -/
def ofString (s : String) : Text := s.toUTF8.data.toList

instance : Coe String Text := ⟨ofString⟩

/-- The decimal digits of a number. -/
def ofNat (n : Nat) : Text := (Nat.toDigits 10 n).map fun c => c.toNat.toUInt8

/-- The decimal digits of an integer, with a hyphen in front of a negative one. -/
def ofInt : Int → Text
  | .ofNat n => ofNat n
  | .negSucc n => Byte.hyphen :: ofNat (n + 1)

/-- The text without the bytes of class `p` at its front. -/
def trimLeftBy (p : UInt8 → Bool) (t : Text) : Text := t.dropWhile p

/-- The text without the bytes of class `p` at its end. -/
def trimRightBy (p : UInt8 → Bool) (t : Text) : Text := (t.reverse.dropWhile p).reverse

/-- The text without the blanks at its front. -/
def trimLeft (t : Text) : Text := trimLeftBy Byte.isBlank t

/-- The text without the blanks at its end. -/
def trimRight (t : Text) : Text := trimRightBy Byte.isBlank t

/-- The text without the blanks at both ends. -/
def trim (t : Text) : Text := trimRight (trimLeft t)

/-- Whether `p` stands at the front of `t`. -/
def startsWith (t p : Text) : Bool := p.isPrefixOf t

/-- Whether `p` stands at the end of `t`. -/
def endsWith (t p : Text) : Bool := p.isSuffixOf t

/-- `t` without `p` at its front, where `p` stands there. -/
def dropPrefix? : Text → Text → Option Text
  | t, [] => some t
  | [], _ :: _ => none
  | c :: t, d :: p => if c == d then dropPrefix? t p else none

/-- The position of the first byte of class `p`. -/
def indexOf? (p : UInt8 → Bool) (t : Text) : Option Nat := t.findIdx? p

/-- Whether `p` stands anywhere in `t`. -/
def includes (t p : Text) : Bool :=
  match t with
  | [] => p.isEmpty
  | c :: r => startsWith (c :: r) p || includes r p

/-- The pieces of `t` between the bytes equal to `sep`; there is always at least one. -/
def splitOn (sep : UInt8) : Text → List Text
  | [] => [[]]
  | c :: r =>
    match splitOn sep r with
    | [] => [[c]]
    | piece :: more => if c == sep then [] :: piece :: more else (c :: piece) :: more

/-- The pieces joined with `sep` between them. -/
def join (sep : Text) : List Text → Text
  | [] => []
  | [t] => t
  | t :: u :: more => t ++ sep ++ join sep (u :: more)

/-- `n` copies of `t` in a row. -/
def replicate (n : Nat) (t : Text) : Text := (List.replicate n t).flatten

/-- `t` with every byte `old` replaced by `new`. -/
def replaceByte (t : Text) (old : UInt8) (new : Text) : Text :=
  t.flatMap fun c => if c == old then new else [c]

/-- Copies `t` from left to right and writes `new` for each occurrence of `old`; `skip` counts the
bytes of an occurrence that are still to be passed over. -/
def replaceFrom (old new : Text) : Nat → Text → Text
  | _, [] => []
  | skip + 1, _ :: r => replaceFrom old new skip r
  | 0, c :: r =>
    if startsWith (c :: r) old then new ++ replaceFrom old new (old.length - 1) r
    else c :: replaceFrom old new 0 r

/-- `t` with the leftmost disjoint occurrences of the non-empty text `old` replaced by `new`. -/
def replaceAll (t old new : Text) : Text := replaceFrom old new 0 t

/-- The lines of `t`, each with the line feed that ends it. -/
def lines : Text → List Text
  | [] => []
  | c :: r =>
    if c == Byte.lineFeed then [c] :: lines r
    else match lines r with
      | [] => [[c]]
      | line :: more => (c :: line) :: more

/-- `t` in ASCII lower case. -/
def toLowerAscii (t : Text) : Text := t.map Byte.toLower

/-- The lexicographic order of bytes. -/
def compareBytes : Text → Text → Ordering
  | [], [] => .eq
  | [], _ :: _ => .lt
  | _ :: _, [] => .gt
  | a :: r, b :: s => if a < b then .lt else if b < a then .gt else compareBytes r s

/-- Whether `a` comes before `b` or is `b`, byte by byte. -/
def le (a b : Text) : Bool := compareBytes a b != .gt

/-- The texts in ascending order of bytes. -/
def sort (ts : List Text) : List Text := ts.mergeSort le

/-- The digits of a decimal number that fills the whole text. -/
def toNat? (t : Text) : Option Nat :=
  if t.isEmpty || !t.all Byte.isDigit then none
  else some (t.foldl (fun n c => n * 10 + (c.toNat - 0x30)) 0)

/-- `t` padded with spaces on the left to at least `width` bytes. -/
def padLeft (width : Nat) (t : Text) : Text := List.replicate (width - t.length) Byte.space ++ t

end Text

end NestedCss
