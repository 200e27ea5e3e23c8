import NestedCss.Text
/-!
# Lexemes of flat style sheets

The lexical grammar that every browser shares, as far as the check of compiled output needs it. A
lexeme is a kind and a number of bytes; every text that is not empty starts with one, since a byte
that fits nothing else is a delimiter.
-/
namespace NestedCss.Check

/-- The kinds of lexemes. -/
inductive LexemeKind where
  /-- A name. -/
  | ident
  /-- A name with the opening parenthesis of its arguments. -/
  | function
  /-- An at sign with a name. -/
  | atKeyword
  /-- A number sign with a name. -/
  | hash
  /-- A quoted string. -/
  | string
  /-- A quoted string that a line end breaks. -/
  | badString
  /-- An address. -/
  | url
  /-- A malformed address. -/
  | badUrl
  /-- A byte that fits nothing else. -/
  | delim
  /-- A number, with a unit or a percent sign or without. -/
  | number
  /-- A range of characters. -/
  | unicodeRange
  /-- An operator that compares attributes. -/
  | matching
  /-- A column separator. -/
  | column
  /-- A run of blanks. -/
  | whitespace
  /-- An opening comment mark of markup. -/
  | commentOpen
  /-- A closing comment mark of markup. -/
  | commentClose
  /-- A colon. -/
  | colon
  /-- A semicolon. -/
  | semicolon
  /-- A comma. -/
  | comma
  /-- An opening bracket that is not a brace. -/
  | openGroup (square : Bool)
  /-- A closing bracket that is not a brace. -/
  | closeGroup (square : Bool)
  /-- An opening brace. -/
  | openBrace
  /-- A closing brace. -/
  | closeBrace
  /-- A comment. -/
  | comment
  /-- The name of a custom property. -/
  | customName
  deriving DecidableEq, Repr

namespace Lexeme

/-! ### Character classes -/

/-- A blank of flat style sheets; the vertical tab is not one. -/
def isBlank (c : UInt8) : Bool :=
  c == Byte.space || c == Byte.tab || c == Byte.lineFeed || c == Byte.carriageReturn
    || c == Byte.formFeed

/-- A byte that ends a line. -/
def isLineEnd (c : UInt8) : Bool :=
  c == Byte.lineFeed || c == Byte.carriageReturn || c == Byte.formFeed

/-- A byte that starts a name. -/
def isNameStart (c : UInt8) : Bool := Byte.isLetter c || c == Byte.underscore || !Byte.isAscii c

/-- A byte inside a name. -/
def isNameByte (c : UInt8) : Bool := isNameStart c || Byte.isDigit c || c == Byte.hyphen

/-- A hexadecimal digit. -/
def isHex (c : UInt8) : Bool := (Byte.hexValue? c).isSome

/-- The length of the run of bytes of class `p` at the front. -/
def run (p : UInt8 → Bool) (t : Text) : Nat := (t.takeWhile p).length

/-! ### Escapes and names -/

/-- The number of bytes of the character that starts with `c`, by its first byte alone. -/
def charWidth (c : UInt8) : Nat :=
  if c < 0xC0 then 1 else if c < 0xE0 then 2 else if c < 0xF0 then 3 else 4

/-- The length of the escape at the front of a text that starts with a backslash. A backslash
before a line end or at the end of the text is none. -/
def escape? (t : Text) : Option Nat :=
  match t.drop 1 with
  | [] => none
  | c :: r =>
    if isLineEnd c then none
    else if isHex c then
      let digits := 1 + run isHex (r.take 5)
      let blank := ((t.drop (1 + digits)).head?.map isBlank).getD false
      some (1 + digits + if blank then 1 else 0)
    else some (1 + min (charWidth c) (r.length + 1))

/-- The length of the name bytes and escapes at the front; `skip` bytes of an escape are still to
be passed over. -/
def nameRun : Nat → Text → Nat
  | _, [] => 0
  | skip + 1, _ :: r => 1 + nameRun skip r
  | 0, c :: r =>
    if isNameByte c then 1 + nameRun 0 r
    else if c == Byte.backslash then
      match escape? (c :: r) with
      | some n => 1 + nameRun (n - 1) r
      | none => 0
    else 0

/-- The length of the first byte or escape of a name. -/
def nameStart? (t : Text) : Option Nat :=
  match t with
  | [] => none
  | c :: _ =>
    if isNameStart c then some 1 else if c == Byte.backslash then escape? t else none

/-- The length of the name at the front. -/
def ident? (t : Text) : Option Nat :=
  let sign := if t.head? == some Byte.hyphen then 1 else 0
  (nameStart? (t.drop sign)).map fun n => sign + n + nameRun 0 (t.drop (sign + n))

/-- The length of the rest of a hash: a name that may start like the inside of one. -/
def hashName? (t : Text) : Option Nat :=
  let n := nameRun 0 t
  if n == 0 then none else some n

/-! ### Numbers -/

/-- The length of an exponent, where the text starts with one. -/
def exponent (t : Text) : Nat :=
  match t with
  | [] => 0
  | e :: r =>
    if e == 0x65 || e == 0x45 then
      let sign := if r.head? == some Byte.plus || r.head? == some Byte.hyphen then 1 else 0
      let digits := run Byte.isDigit (r.drop sign)
      if digits == 0 then 0 else 1 + sign + digits
    else 0

/-- The length of a decimal point with digits behind it. -/
def fraction (t : Text) : Nat :=
  match t with
  | Byte.dot :: r =>
    let digits := run Byte.isDigit r
    if digits == 0 then 0 else 1 + digits
  | _ => 0

/-- The length of the number at the front, without a unit. A point that no digit follows belongs to
the next lexeme, and then there is no exponent either. -/
def plainNumber? (t : Text) : Option Nat :=
  let sign := if t.head? == some Byte.plus || t.head? == some Byte.hyphen then 1 else 0
  let whole := run Byte.isDigit (t.drop sign)
  let rest := t.drop (sign + whole)
  let part := fraction rest
  if whole == 0 && part == 0 then none
  else if part == 0 && rest.head? == some Byte.dot then some (sign + whole)
  else some (sign + whole + part + exponent (rest.drop part))

/-- The length of the number at the front, with a percent sign or a unit. -/
def number? (t : Text) : Option Nat :=
  (plainNumber? t).map fun n =>
    let rest := t.drop n
    if rest.head? == some Byte.percent then n + 1 else n + (ident? rest).getD 0

/-- The length of the range of characters at the front. Neither end has more than six digits, where
question marks stand for digits. -/
def unicodeRange? (t : Text) : Option Nat :=
  match t with
  | _ :: Byte.plus :: r =>
    let digits := run isHex r
    match r.drop digits with
    | Byte.hyphen :: more =>
      let second := run isHex more
      if digits == 0 || 6 < digits || second == 0 || 6 < second then none
      else some (2 + digits + 1 + second)
    | rest =>
      let marks := run (· == Byte.question) rest
      if digits + marks == 0 || 6 < digits + marks then none else some (2 + digits + marks)
  | _ => none

/-! ### Strings, comments and addresses -/

/-- The length of the rest of a string that the byte `delimiter` closes, and whether it is whole; a
line end breaks it. `skip` bytes of an escape are still to be passed over. -/
def stringRun (delimiter : UInt8) : Nat → Text → Nat × Bool
  | _, [] => (0, true)
  | skip + 1, _ :: r =>
    let (n, ok) := stringRun delimiter skip r
    (n + 1, ok)
  | 0, c :: r =>
    if isLineEnd c then (1, false)
    else if c == delimiter then (1, true)
    else
      let skip :=
        if c == Byte.backslash then
          match escape? (c :: r) with
          | some n => n - 1
          | none =>
            match r with
            | Byte.carriageReturn :: Byte.lineFeed :: _ => 2
            | [] => 0
            | _ => 1
        else 0
      let (n, ok) := stringRun delimiter skip r
      (n + 1, ok)

/-- The length of the string at the front, and whether it is whole. -/
def string (t : Text) : Nat × Bool :=
  match t with
  | [] => (0, true)
  | d :: r =>
    let (n, ok) := stringRun d 0 r
    (n + 1, ok)

/-- The length of the rest of a comment, with its closing mark. -/
def commentRun : Text → Nat
  | [] => 0
  | c :: r =>
    if c == Byte.star && r.head? == some Byte.slash then 2 else 1 + commentRun r

/-- The length of the unquoted address at the front, up to its closing parenthesis, and whether it
is well-formed. -/
def addressRun : Nat → Text → Nat × Bool
  | _, [] => (0, true)
  | skip + 1, _ :: r =>
    let (n, ok) := addressRun skip r
    (n + 1, ok)
  | 0, c :: r =>
    if c == Byte.closeParen then (0, true)
    else if c == Byte.backslash then
      match escape? (c :: r) with
      | some n =>
        let (m, ok) := addressRun (n - 1) r
        (m + 1, ok)
      | none => (0, false)
    else if c == Byte.doubleQuote || c == Byte.singleQuote || c == Byte.openParen
        || c ≤ 0x20 || c == 0x7F then (0, false)
    else
      let (n, ok) := addressRun 0 r
      (n + 1, ok)

/-- The length of what is passed over to leave a malformed address: up to and with the next closing
parenthesis that is not escaped. -/
def remnantRun : Nat → Text → Nat
  | _, [] => 0
  | skip + 1, _ :: r => 1 + remnantRun skip r
  | 0, c :: r =>
    if c == Byte.closeParen then 1
    else
      let skip := if c == Byte.backslash then (escape? (c :: r)).getD 1 - 1 else 0
      1 + remnantRun skip r

/-- The address behind `url(`: whether it is well-formed, and its length with the closing
parenthesis. -/
def address (t : Text) : Bool × Nat :=
  let lead := run isBlank t
  let body := t.drop lead
  let quoted := body.head? == some Byte.doubleQuote || body.head? == some Byte.singleQuote
  let (n, ok) := if quoted then string body else addressRun 0 body
  let rest := body.drop n
  let blanks := run isBlank rest
  if !ok && (quoted || blanks == 0) then (false, lead + n + remnantRun 0 rest)
  else match rest.drop blanks with
    | [] => (true, lead + n + blanks)
    | c :: r =>
      if c == Byte.closeParen then (true, lead + n + blanks + 1)
      else (false, lead + n + blanks + remnantRun 0 (c :: r))

/-- The lexeme of a text that starts with a name. -/
def identLike? (t : Text) : Option (LexemeKind × Nat) :=
  (ident? t).map fun n =>
    if (t.drop n).head? != some Byte.openParen then (.ident, n)
    else if ((t.take n).filter (· != Byte.backslash)).map Byte.toLower != Text.ofString "url" then
      (.function, n + 1)
    else
      let (ok, m) := address (t.drop (n + 1))
      (if ok then .url else .badUrl, n + 1 + m)

/-! ### The lexeme at the front -/

/-- The lexeme of a text that starts with a hyphen. -/
def hyphenLike? (t : Text) : Option (LexemeKind × Nat) :=
  ((number? t).map (LexemeKind.number, ·))
    <|> identLike? t
    <|> (if t.startsWith (Text.ofString "-->") then some (.commentClose, 3) else none)
    <|> (if (t.drop 1).head? == some Byte.hyphen then
          some (.customName, 2 + nameRun 0 (t.drop 2))
        else none)

/-- The lexeme of a text that starts with a byte other than a bracket or a simple separator. -/
def other? (c : UInt8) (t : Text) : Option (LexemeKind × Nat) :=
  let equalsNext := (t.drop 1).head? == some Byte.equals
  match c with
  | Byte.hash => (hashName? (t.drop 1)).map fun n => (.hash, n + 1)
  | Byte.doubleQuote | Byte.singleQuote =>
    let (n, ok) := string t
    some (if ok then .string else .badString, n)
  | Byte.dot | Byte.plus => (number? t).map (.number, ·)
  | Byte.hyphen => hyphenLike? t
  | Byte.atSign => (ident? (t.drop 1)).map fun n => (.atKeyword, n + 1)
  | Byte.dollar | Byte.star | Byte.caret | Byte.tilde =>
    if equalsNext then some (.matching, 2) else none
  | Byte.slash =>
    if (t.drop 1).head? == some Byte.star then some (.comment, 2 + commentRun (t.drop 2)) else none
  | Byte.less => if t.startsWith (Text.ofString "<!--") then some (.commentOpen, 4) else none
  | Byte.bar =>
    if equalsNext then some (.matching, 2)
    else if (t.drop 1).head? == some Byte.bar then some (.column, 2) else none
  | _ =>
    if Byte.isDigit c then (number? t).map (.number, ·)
    else if Byte.toLower c == 0x75 then
      ((unicodeRange? t).map (LexemeKind.unicodeRange, ·)) <|> identLike? t
    else identLike? t

/-- The kind and the length of the lexeme at the front of a text. -/
def first? (t : Text) : Option (LexemeKind × Nat) :=
  match t with
  | [] => none
  | c :: _ =>
    if isBlank c then some (.whitespace, run isBlank t)
    else match c with
      | Byte.colon => some (.colon, 1)
      | Byte.semicolon => some (.semicolon, 1)
      | Byte.comma => some (.comma, 1)
      | Byte.openParen => some (.openGroup false, 1)
      | Byte.closeParen => some (.closeGroup false, 1)
      | Byte.openBracket => some (.openGroup true, 1)
      | Byte.closeBracket => some (.closeGroup true, 1)
      | Byte.openBrace => some (.openBrace, 1)
      | Byte.closeBrace => some (.closeBrace, 1)
      | _ => some ((other? c t).getD (.delim, 1))

end Lexeme

/-- A lexeme with its bytes and the position behind it. -/
structure Lexeme where
  /-- The kind. -/
  kind : LexemeKind
  /-- The bytes. -/
  text : Text
  /-- The position behind it. -/
  stop : Nat

namespace Lexeme

/-- The position of its first byte. -/
def start (l : Lexeme) : Nat := l.stop - l.text.length

/-- Cuts a text into lexemes: `taken` are the bytes of the current one, the last first, of which
`left` more are to come. -/
def cutFrom (pos : Nat) (kind : LexemeKind) (taken : Text) : Nat → Text → List Lexeme
  | 0, [] => if taken.isEmpty then [] else [⟨kind, taken.reverse, pos⟩]
  | _ + 1, [] => [⟨kind, taken.reverse, pos⟩]
  | left + 1, c :: r => cutFrom (pos + 1) kind (c :: taken) left r
  | 0, c :: r =>
    let done := if taken.isEmpty then [] else [⟨kind, taken.reverse, pos⟩]
    match first? (c :: r) with
    | some (k, n) => done ++ cutFrom (pos + 1) k [c] (n - 1) r
    | none => done

/-- The lexemes of a text. -/
def cut (t : Text) : List Lexeme := cutFrom 0 .delim [] 0 t

end Lexeme

end NestedCss.Check
