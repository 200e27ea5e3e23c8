import NestedCss.Template.Value
/-!
# Formats

A format is text with verbs: a percent sign, flags, a width, a precision and a letter that tells how
the next value is printed. A value that does not suit its letter is printed with its type.
-/
namespace NestedCss.Template

/-- A verb without its letter. -/
structure Verb where
  /-- Fill up on the right. -/
  minus : Bool := false
  /-- Show the sign of positive numbers, and escape what is not ASCII in quotes. -/
  plus : Bool := false
  /-- Show the base of a number, or its point. -/
  sharp : Bool := false
  /-- Leave room for a sign, or between bytes. -/
  space : Bool := false
  /-- Fill up with zeros. -/
  zeros : Bool := false
  /-- The least width. -/
  width : Option Nat := none
  /-- The precision. -/
  precision : Option Nat := none
  /-- Write values as a program would. -/
  asCode : Bool := false
  /-- Show the names of fields. -/
  named : Bool := false

namespace Verb

/-! ### Filling up -/

/-- What fills up `n` places. -/
def padding (v : Verb) (n : Nat) : Text :=
  List.replicate n (if v.zeros && !v.minus then 0x30 else Byte.space)

/-- Fills a text up to the width of a verb. -/
def pad (v : Verb) (t : Text) : Text :=
  let fill := v.padding (v.width.getD 0 - Utf8.count t)
  if v.minus then t ++ fill else fill ++ t

/-- A text cut to the precision of a verb. -/
def cut (v : Verb) (t : Text) : Text :=
  match v.precision with
  | some p => Utf8.take p t
  | none => t

/-! ### Whole numbers -/

/-- Letters in upper case. -/
def capitals (t : Text) : Text := t.map fun c => if Byte.isLower c then c - 0x20 else c

/-- A number in a base. -/
def inBase (base : Nat) (n : Nat) : Text := (Nat.toDigits base n).map fun c => c.toNat.toUInt8

/-- The sign of a number under a verb. -/
def sign (v : Verb) (negative : Bool) : Text :=
  if negative then [Byte.hyphen] else if v.plus then [Byte.plus]
  else if v.space then [Byte.space] else []

/-- The mark of a base in front of digits. -/
def baseMark (base : Nat) (digits : Text) : Text :=
  if base == 2 then Text.ofString "0b"
  else if base == 16 then Text.ofString "0x"
  else if base == 8 && digits.head? != some 0x30 then Text.ofString "0"
  else []

/-- The least number of digits of a whole number. Zeros that fill up the width are digits, and the
sign takes one place of them. -/
def leastDigits (v : Verb) (negative : Bool) : Nat :=
  match v.precision, v.width with
  | some p, _ => p
  | none, some w => if v.zeros && !v.minus then w - (v.sign negative).length else 0
  | none, none => 0

/-- A whole number under a verb, with `mark` in front of its digits. Zero with no digits asked for
is nothing but its width. -/
def int (v : Verb) (n : Int) (base : Nat) (mark : Text) : Text :=
  let v' := { v with zeros := false }
  if v.precision == some 0 && n == 0 then v'.padding (v.width.getD 0)
  else
    let digits := inBase base n.natAbs
    let digits := List.replicate (v.leastDigits (n < 0) - digits.length) 0x30 ++ digits
    let lead := mark ++ if v.sharp then baseMark base digits else []
    v'.pad (v.sign (n < 0) ++ lead ++ digits)

/-- The character of a number; one that stands for none is U+FFFD. -/
def charOf (n : Int) : Char :=
  if 0 ≤ n && n.toNat.isValidChar then Char.ofNat n.toNat else Symbol.replacement

/-- A number as a code point, in 64 bits, and its character where that is asked for and
printable. -/
def codePoint (v : Verb) (n : Int) : Text :=
  let code := if n < 0 then (Int.pow 2 64 + n).toNat else n.toNat
  let digits := capitals (inBase 16 code)
  let least := max 4 (v.precision.getD 0)
  let shown : Text :=
    if v.sharp && code.isValidChar && Printable.isPrintable (Char.ofNat code) then
      Text.ofString " '" ++ Utf8.encodeChar (Char.ofNat code) ++ Text.ofString "'"
    else []
  { v with zeros := false }.pad (Text.ofString "U+"
    ++ List.replicate (least - digits.length) 0x30 ++ digits ++ shown)

/-- A whole number under a verb with a letter that suits it. -/
def intWith? (v : Verb) (letter : Char) (n : Int) : Option Text :=
  match letter with
  | 'd' => some (v.int n 10 [])
  | 'b' => some (v.int n 2 [])
  | 'o' => some (v.int n 8 [])
  | 'O' => some (v.int n 8 (Text.ofString "0o"))
  | 'x' => some (v.int n 16 [])
  | 'X' => some (capitals (v.int n 16 []))
  | 'c' => some (v.pad (Utf8.encodeChar (charOf n)))
  | 'q' => some (v.pad (Quoted.char v.plus (charOf n)))
  | 'U' => some (v.codePoint n)
  | _ => none

/-! ### Numbers with a fraction -/

/-- How many digits of a number count, from the first that is not zero on. -/
def significant (t : Text) : Nat :=
  ((t.filter (· != Byte.dot)).dropWhile (· == 0x30)).length

/-- A number with its point shown, and filled up to a number of digits. -/
def withPoint (form : Binary64.Form) (least : Nat) (t : Text) : Text :=
  let isTail (c : UInt8) : Bool :=
    Byte.toLower c == 0x70 || (form != .hexadecimal && Byte.toLower c == 0x65)
  let head := t.takeWhile (! isTail ·)
  let pointed := head.elem Byte.dot
  let counted := significant head + if head == [0x30] then 1 else 0
  head ++ (if pointed then [] else [Byte.dot]) ++ List.replicate (least - counted) 0x30
    ++ t.drop head.length

/-- A number under a verb, in a form and with a precision that the verb may replace. -/
def float (v : Verb) (form : Binary64.Form) (places : Option Nat) (upper : Bool) (x : Binary64) :
    Text :=
  let places := v.precision <|> places
  let body := x.write form places upper
  let body :=
    if v.sharp && form != .binary then
      let counts := form == .general || (form == .hexadecimal && !upper)
      withPoint form (if counts then places.getD 6 else 0) body
    else body
  let sign := v.sign x.negative
  let size := sign.length + body.length
  if v.zeros && !v.minus && !sign.isEmpty then
    sign ++ v.padding (v.width.getD 0 - size) ++ body
  else v.pad (sign ++ body)

/-- The form, the precision and the case that a letter stands for. -/
def floatForm? (letter : Char) : Option (Binary64.Form × Option Nat × Bool) :=
  match letter with
  | 'v' | 'g' => some (.general, none, false)
  | 'G' => some (.general, none, true)
  | 'b' => some (.binary, none, false)
  | 'x' => some (.hexadecimal, none, false)
  | 'X' => some (.hexadecimal, none, true)
  | 'f' | 'F' => some (.positional, some 6, false)
  | 'e' => some (.exponent, some 6, false)
  | 'E' => some (.exponent, some 6, true)
  | _ => none

/-- A number under a verb with a letter that suits it. -/
def floatWith? (v : Verb) (letter : Char) (x : Binary64) : Option Text :=
  (floatForm? letter).map fun (form, places, upper) => v.float form places upper x

/-- A complex number under a verb with a letter that suits it. The second part always has a sign. -/
def complexWith? (v : Verb) (letter : Char) (re im : Binary64) : Option Text := do
  let x ← v.floatWith? letter re
  let y ← { v with plus := true }.floatWith? letter im
  return [Byte.openParen] ++ x ++ y ++ Text.ofString "i)"

/-! ### Strings -/

/-- A string under a verb, cut to its precision. -/
def str (v : Verb) (t : Text) : Text := v.pad (v.cut t)

/-- Whether a text can stand between backquotes. -/
def isRaw (t : Text) : Bool :=
  (Utf8.symbols t).all fun
    | .scalar c =>
      c.toNat != 0xFEFF && c != '\x60' && c.toNat != 0x7F && (0x20 ≤ c.toNat || c.toNat == 0x09)
    | .stray _ => false

/-- A string in quotes under a verb. -/
def quoted (v : Verb) (t : Text) : Text :=
  let t := v.cut t
  v.pad (if v.sharp && isRaw t then Byte.backquote :: (t ++ [Byte.backquote])
    else if v.plus then t.quoteAscii
    else t.quote)

/-- The bytes of a string in hexadecimal digits. -/
def hexadecimal (v : Verb) (t : Text) : Text :=
  let t := match v.precision with
    | some p => t.take p
    | none => t
  let mark := if v.sharp then Text.ofString "0x" else []
  let bytes := t.map fun b => Quoted.hex 2 b.toNat
  v.pad (if bytes.isEmpty then []
    else if v.space then Text.join [Byte.space] (bytes.map (mark ++ ·))
    else mark ++ bytes.flatten)

/-- A string under a verb with a letter that suits it. -/
def strWith? (v : Verb) (letter : Char) (t : Text) : Option Text :=
  match letter with
  | 's' => some (v.str t)
  | 'v' => some (if v.asCode then v.quoted t else v.str t)
  | 'q' => some (v.quoted t)
  | 'x' => some (v.hexadecimal t)
  | 'X' => some (capitals (v.hexadecimal t))
  | _ => none

/-! ### Values -/

/-- Texts in brackets with spaces between them. -/
def bracketed (ts : List Text) : Text :=
  [Byte.openBracket] ++ Text.join [Byte.space] ts ++ [Byte.closeBracket]

/-- Texts in braces, behind the name of a type and with commas between them in code. -/
def braced (v : Verb) (type : Text) (ts : List Text) : Text :=
  (if v.asCode then type else []) ++ [Byte.openBrace]
    ++ Text.join (if v.asCode then Text.ofString ", " else [Byte.space]) ts ++ [Byte.closeBrace]

/-- The name of a field in front of its value, where names are shown. -/
def field (v : Verb) (name value : Text) : Text :=
  (if v.asCode || v.named then name ++ [Byte.colon] else []) ++ value

/-- A list under a verb. -/
def list (v : Verb) (type : Text) (ts : List Text) : Text :=
  if v.asCode then v.braced type ts else bracketed ts

/-- A byte of a list under a verb. -/
def byteIn (v : Verb) (b : UInt8) : Text :=
  if v.asCode then { v with sharp := true }.int b.toNat 16 [] else v.int b.toNat 10 []

mutual

/-- A value under the letter that suits every value. With `byName`, values that have a written form
of their own are shown in it. -/
def display (v : Verb) (byName : Bool) : Value → Text
  | .nil => v.pad (Text.ofString "<nil>")
  | .bool b => v.pad (Text.ofString (if b then "true" else "false"))
  | .int kind n =>
    match kind.text? n with
    | some t => if byName && !v.asCode then v.str t else v.int n 10 []
    | none =>
      if kind == .byte && v.asCode then { v with sharp := true }.int n 16 [] else v.int n 10 []
  | .float x => (v.floatWith? 'v' x).getD []
  | .complex x y => (v.complexWith? 'v' x y).getD []
  | .str t => (v.strWith? 'v' t).getD []
  | .strings ts _ => v.list (Text.ofString "[]string") (ts.map fun t => (v.strWith? 'v' t).getD [])
  | .bytes t _ => v.list (Text.ofString "[]byte") (t.map v.byteIn)
  | .time t =>
    if byName then v.str (if v.asCode then t.toCode else t.toText)
    else v.braced (Text.ofString "time.Time") [v.int t.nanosecond 10 [], v.int t.seconds 10 [],
      v.pad (Text.ofString "<nil>")]
  | .location => v.str (Text.ofString "UTC")
  | .record type fields => v.braced type (displayFields v byName fields)

/-- The fields of a record under the letter that suits every value. -/
def displayFields (v : Verb) (byName : Bool) : List (Text × Value) → List Text
  | [] => []
  | (name, value) :: more => v.field name (display v byName value) :: displayFields v byName more

end

/-- A value that does not suit the letter of a verb. -/
def mismatch (v : Verb) (letter : Char) (value : Value) : Text :=
  Text.ofString "%!" ++ Utf8.encodeChar letter ++ [Byte.openParen] ++
    (match value with
      | .nil => Text.ofString "<nil>"
      | _ => value.typeName ++ [Byte.equals] ++ v.display false value) ++ [Byte.closeParen]

/-- The written form of its own that a value has. -/
def ownText? : Value → Option Text
  | .int kind n => kind.text? n
  | .time t => some t.toText
  | .location => some (Text.ofString "UTC")
  | _ => none

/-- Whether a letter shows a value in the written form of its own. -/
def showsOwnText (letter : Char) : Bool := "sxXq".contains letter

mutual

/-- A value under a verb with a letter that does not suit every value. -/
def applyLetter (v : Verb) (letter : Char) : Value → Text
  | .int kind n =>
    match kind.text? n, showsOwnText letter with
    | some t, true => (v.strWith? letter t).getD []
    | _, _ => (v.intWith? letter n).getD (v.mismatch letter (.int kind n))
  | .bool b => if letter == 't' then v.display false (.bool b) else v.mismatch letter (.bool b)
  | .float x => (v.floatWith? letter x).getD (v.mismatch letter (.float x))
  | .complex x y => (v.complexWith? letter x y).getD (v.mismatch letter (.complex x y))
  | .str t => (v.strWith? letter t).getD (v.mismatch letter (.str t))
  | .strings ts _ =>
    bracketed (ts.map fun t => (v.strWith? letter t).getD (v.mismatch letter (.str t)))
  | .bytes t _ =>
    if showsOwnText letter then (v.strWith? letter t).getD []
    else bracketed (t.map fun b =>
      (v.intWith? letter b.toNat).getD (v.mismatch letter (.int .byte b.toNat)))
  | .time t =>
    if showsOwnText letter then (v.strWith? letter t.toText).getD []
    else
      let whole := v.mismatch letter (.time t)
      let number (n : Int) : Text := (v.intWith? letter n).getD whole
      v.braced [] [number t.nanosecond, number t.seconds,
        if "bod".contains letter then number 0 else whole]
  | .location =>
    if showsOwnText letter then (v.strWith? letter (Text.ofString "UTC")).getD []
    else v.mismatch letter .location
  | .record _ fields => v.braced [] (applyFields v letter fields)
  | .nil => v.mismatch letter .nil

/-- The fields of a record under a verb with a letter that does not suit every value. -/
def applyFields (v : Verb) (letter : Char) : List (Text × Value) → List Text
  | [] => []
  | (_, value) :: more => applyLetter v letter value :: applyFields v letter more

end

/-- A value under a verb with a letter. -/
def apply (v : Verb) (letter : Char) (value : Value) : Text :=
  match letter, value with
  | 'T', .nil => v.pad (Text.ofString "<nil>")
  | 'T', _ => v.str value.typeName
  | 'v', _ =>
    let v := { v with asCode := v.sharp, sharp := false, named := v.plus, plus := false }
    v.display true value
  | 'w', _ | 'p', _ => v.mismatch letter value
  | _, _ => v.applyLetter letter value

end Verb

/-- A value as it is printed. -/
def Value.print (value : Value) : Text := Verb.apply {} 'v' value

/-- Values printed one after the other, with a space between two of them that are no strings. -/
def printAll : List Value → Text
  | [] => []
  | [v] => v.print
  | v :: w :: more =>
    v.print ++ (if v.isStr || w.isStr then [] else [Byte.space]) ++ printAll (w :: more)

namespace Format

/-! ### Reading verbs -/

/-- The state of reading a verb. -/
structure Cursor where
  /-- What is left of the format. -/
  rest : Text
  /-- The position of the next value. -/
  next : Nat
  /-- Whether the position has just been given. -/
  placed : Bool := false
  /-- Whether all positions that have been given are there. -/
  good : Bool := true
  /-- Whether some position has been given. -/
  reordered : Bool := false
  /-- Complaints about the width and the precision. -/
  complaints : Text := []

/-- The flags at the front of a format, and what follows them. -/
def flags (v : Verb) : Text → Verb × Text
  | [] => (v, [])
  | c :: rest =>
    match Char.ofNat c.toNat with
    | '-' => flags { v with minus := true } rest
    | '+' => flags { v with plus := true } rest
    | '#' => flags { v with sharp := true } rest
    | ' ' => flags { v with space := true } rest
    | '0' => flags { v with zeros := true } rest
    | _ => (v, c :: rest)

/-- The greatest number that another digit may follow. -/
def largest : Nat := 1000000

/-- The number that digits write, unless it gets too large. -/
def number? (digits : Text) : Option Nat :=
  digits.foldlM (fun n c => if largest < n then none else some (n * 10 + (c.toNat - 0x30))) 0

/-- The number at the front of a format, and what follows it; nothing does where the number gets too
large. -/
def number (t : Text) : Option Nat × Text :=
  let digits := t.takeWhile Byte.isDigit
  if digits.isEmpty then (none, t)
  else match number? digits with
    | some n => (some n, t.drop digits.length)
    | none => (none, [])

/-- A position in brackets at the front of a format: counted from zero, where it is a number at all,
and the length of what is passed over. -/
def position (t : Text) : Option Int × Nat :=
  let body := (t.drop 1).takeWhile (· != Byte.closeBracket)
  if t.length < 3 || body.length + 1 == t.length then (none, 1)
  else
    let digits := body.takeWhile Byte.isDigit
    let n := if digits.isEmpty || digits.length != body.length then none else number? digits
    (n.map fun n => (n : Int) - 1, body.length + 2)

/-- Reads a position, if one comes next. -/
def Cursor.place (c : Cursor) (count : Nat) : Cursor :=
  if c.rest.head? != some Byte.openBracket then { c with placed := false }
  else
    let (n, width) := position c.rest
    let c := { c with rest := c.rest.drop width, reordered := true, placed := n.isSome }
    match n with
    | some i => if 0 ≤ i && i < count then { c with next := i.toNat } else { c with good := false }
    | none => { c with good := false }

/-- The whole number that the next value is, if it is small enough. -/
def Cursor.takeInt (c : Cursor) (values : List Value) : Option Int × Cursor :=
  match values[c.next]? with
  | some (.int _ n) => (if n.natAbs ≤ largest then some n else none, { c with next := c.next + 1 })
  | some _ => (none, { c with next := c.next + 1 })
  | none => (none, c)

/-- Reads the width of a verb. -/
def width (values : List Value) (v : Verb) (c : Cursor) : Verb × Cursor :=
  if c.rest.head? == some Byte.star then
    let (n, c) := { c with rest := c.rest.drop 1, placed := false }.takeInt values
    match n with
    | some n => ({ v with width := some n.natAbs, minus := v.minus || n < 0 }, c)
    | none => (v, { c with complaints := c.complaints ++ Text.ofString "%!(BADWIDTH)" })
  else
    let (n, rest) := number c.rest
    ({ v with width := n }, { c with rest, good := c.good && !(c.placed && n.isSome) })

/-- Reads the precision of a verb. -/
def precision (values : List Value) (v : Verb) (c : Cursor) : Verb × Cursor :=
  if c.rest.head? != some Byte.dot then (v, c)
  else
    let c := { c with rest := c.rest.drop 1, good := c.good && !c.placed }.place values.length
    if c.rest.head? == some Byte.star then
      let (n, c) := { c with rest := c.rest.drop 1, placed := false }.takeInt values
      match n.filter (0 ≤ ·) with
      | some n => ({ v with precision := some n.toNat }, c)
      | none => (v, { c with complaints := c.complaints ++ Text.ofString "%!(BADPREC)" })
    else
      let (n, rest) := number c.rest
      ({ v with precision := some (n.getD 0) }, { c with rest })

/-- The verb behind a percent sign. -/
def verb (values : List Value) (c : Cursor) : Verb × Cursor :=
  let (v, rest) := flags {} c.rest
  let (v, c) := width values v ({ c with rest }.place values.length)
  let (v, c) := precision values v c
  (v, if c.placed then c else c.place values.length)

/-! ### Writing -/

/-- The values that a format leaves over. -/
def extra (values : List Value) : Text :=
  if values.isEmpty then []
  else Text.ofString "%!(EXTRA " ++ Text.join (Text.ofString ", ") (values.map fun v =>
    match v with
    | .nil => Text.ofString "<nil>"
    | _ => v.typeName ++ [Byte.equals] ++ v.print) ++ [Byte.closeParen]

/-- A letter with a note in place of a value. -/
def note (letter : Char) (word : String) : Text :=
  Text.ofString "%!" ++ Utf8.encodeChar letter ++ Text.ofString word

/-- Writes a format from the value at position `next` on; `skip` bytes belong to the verb written
last. -/
def writeFrom (values : List Value) (next : Nat) (reordered : Bool) : Nat → Text → Text
  | _, [] => if reordered then [] else extra (values.drop next)
  | skip + 1, _ :: rest => writeFrom values next reordered skip rest
  | 0, c :: rest =>
    if c != Byte.percent then c :: writeFrom values next reordered 0 rest
    else
      let (v, cur) := verb values { rest, next, reordered }
      let skip := rest.length - cur.rest.length
      cur.complaints ++
        match Utf8.first? cur.rest with
        | none => Text.ofString "%!(NOVERB)" ++ writeFrom values cur.next cur.reordered skip rest
        | some (s, width) =>
          let letter := s.toChar
          let go (t : Text) (next : Nat) : Text :=
            t ++ writeFrom values next cur.reordered (skip + width) rest
          if letter == '%' then go [Byte.percent] cur.next
          else if !cur.good then go (note letter "(BADINDEX)") cur.next
          else match values[cur.next]? with
            | none => go (note letter "(MISSING)") cur.next
            | some value => go (v.apply letter value) (cur.next + 1)

/-- Values written under a format. -/
def write (format : Text) (values : List Value) : Text := writeFrom values 0 false 0 format

end Format

end NestedCss.Template
