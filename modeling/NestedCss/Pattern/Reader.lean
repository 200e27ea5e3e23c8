import NestedCss.Pattern
import NestedCss.Text.Quoted
/-!
# Reading patterns

The written form of patterns: a character stands for itself, and `\ . + * ? ( ) | [ ] { } ^ $` have
a meaning of their own. The reader goes through the text one item at a time and keeps the groups
that are open.
-/
namespace NestedCss.Pattern

/-! ### Errors -/

/-- What can be wrong with a written pattern. -/
inductive Fault where
  /-- A range of a class ends before it starts, or a class has an unknown name. -/
  | badRange
  /-- A backslash in front of something that it gives no meaning. -/
  | badEscape
  /-- A group without a proper name. -/
  | badName
  /-- A group that opens in an unknown way. -/
  | badGroup
  /-- A repetition of a repetition. -/
  | nestedRepeat
  /-- Numbers of a repetition that are too large or out of order. -/
  | badCount
  /-- A class that is not closed. -/
  | openClass
  /-- A group that is not closed. -/
  | openGroup
  /-- A repetition of nothing. -/
  | nothingToRepeat
  /-- A backslash at the end. -/
  | trailingBackslash
  /-- A closing parenthesis without an opening one. -/
  | unexpectedClose
  /-- Bytes that are not UTF-8. -/
  | notUtf8
  deriving DecidableEq, Repr

/-- An error in a written pattern, with the part of it that is wrong. -/
structure Error where
  /-- What is wrong. -/
  fault : Fault
  /-- The part that is wrong. -/
  fragment : Text

/-- The wording of a fault. -/
def Fault.message : Fault → String
  | .badRange => "invalid character class range"
  | .badEscape => "invalid escape sequence"
  | .badName => "invalid named capture"
  | .badGroup => "invalid or unsupported Perl syntax"
  | .nestedRepeat => "invalid nested repetition operator"
  | .badCount => "invalid repeat count"
  | .openClass => "missing closing ]"
  | .openGroup => "missing closing )"
  | .nothingToRepeat => "missing argument to repetition operator"
  | .trailingBackslash => "trailing backslash at end of expression"
  | .unexpectedClose => "unexpected )"
  | .notUtf8 => "invalid UTF-8"

/-- The wording of an error. -/
def Error.message (e : Error) : Text :=
  Text.ofString "error parsing regexp: " ++ Text.ofString e.fault.message ++ Text.ofString ": "
    ++ [Byte.backquote] ++ e.fragment ++ [Byte.backquote]

/-! ### Single characters -/

/-- The code point at the front of a text, and the number of its bytes. -/
def nextChar (t : Text) : Except Error (Nat × Nat) :=
  match Utf8.first? t with
  | some (.scalar c, n) => .ok (c.toNat, n)
  | some (.stray _, _) => .error ⟨.notUtf8, t⟩
  | none => .ok (0xFFFD, 0)

/-- The value of a hexadecimal digit, by code point. -/
def hexDigit? (n : Nat) : Option Nat := if n < 0x80 then Byte.hexValue? n.toUInt8 else none

/-- The largest code point. -/
def maxCode : Nat := 0x10FFFF

/-- Reads the hexadecimal digits of a code point up to the closing brace: `whole` is the escape from
its backslash on, of which `used` bytes have been read, and `value` is what `digits` digits have
given so far. -/
def bracedHex (whole : Text) (used value digits : Nat) : Text → Except Error (Nat × Nat)
  | [] => .error ⟨.badEscape, whole.take used⟩
  | c :: r =>
    if c == Byte.closeBrace then
      if digits == 0 then .error ⟨.badEscape, whole.take (used + 1)⟩ else .ok (value, used + 1)
    else match nextChar (c :: r) with
      | .error e => .error e
      | .ok (n, width) =>
        match hexDigit? n with
        | none => .error ⟨.badEscape, whole.take (used + width)⟩
        | some v =>
          if maxCode < value * 16 + v then .error ⟨.badEscape, whole.take (used + 1)⟩
          else bracedHex whole (used + 1) (value * 16 + v) (digits + 1) r

/-- The code point that hexadecimal digits behind `\x` stand for, and the length of the escape. -/
def hexEscape (whole : Text) : Except Error (Nat × Nat) := do
  let rest := whole.drop 2
  if rest.isEmpty then throw ⟨.badEscape, whole⟩
  let (a, n) ← nextChar rest
  if a == 0x7B then bracedHex whole 3 0 0 (rest.drop 1)
  else
    let (b, m) ← nextChar (rest.drop n)
    match hexDigit? a, hexDigit? b with
    | some x, some y => .ok (x * 16 + y, 4)
    | _, _ => .error ⟨.badEscape, whole.take (2 + n + m)⟩

/-- An octal digit. -/
def isOctal (c : UInt8) : Bool := 0x30 ≤ c && c ≤ 0x37

/-- The code point of the escape at the front of a text that starts with a backslash, and the length
of the escape. -/
def escape (whole : Text) : Except Error (Nat × Nat) :=
  match whole.drop 1 with
  | [] => .error ⟨.trailingBackslash, []⟩
  | c :: r =>
    match Char.ofNat c.toNat with
    | 'a' => .ok (0x07, 2)
    | 'f' => .ok (0x0C, 2)
    | 'n' => .ok (0x0A, 2)
    | 'r' => .ok (0x0D, 2)
    | 't' => .ok (0x09, 2)
    | 'v' => .ok (0x0B, 2)
    | 'x' => hexEscape whole
    | _ =>
      if c == 0x30 || isOctal c && (r.head?.map isOctal).getD false then
        let digits := c :: (r.take 2).takeWhile isOctal
        .ok (digits.foldl (fun n d => n * 8 + (d.toNat - 0x30)) 0, 1 + digits.length)
      else if Byte.isAscii c && !(Byte.isLetter c || Byte.isDigit c) then .ok (c.toNat, 2)
      else match nextChar (c :: r) with
        | .error e => .error e
        | .ok (_, n) => .error ⟨.badEscape, whole.take (1 + n)⟩

/-! ### Classes -/

/-- The length of the text up to and with the first occurrence of `mark`. -/
def upTo? (mark : Text) : Text → Option Nat
  | [] => none
  | c :: r =>
    if Text.startsWith (c :: r) mark then some mark.length else (upTo? mark r).map (· + 1)

/-- The first stray byte of a text is an error, told with all the text from it on. -/
def checkUtf8 : Nat → Text → Except Error Unit
  | _, [] => .ok ()
  | skip + 1, _ :: r => checkUtf8 skip r
  | 0, c :: r =>
    match nextChar (c :: r) with
    | .error e => .error e
    | .ok (_, n) => checkUtf8 (n - 1) r

/-- The class `\p…` or `\P…` at the front of a text, and its length. -/
def property (t : Text) : Except Error (ClassItem × Nat) := do
  let (c, n) ← nextChar (t.drop 2)
  let (name, length) ←
    if c != 0x7B then pure ((t.drop 2).take n, 2 + n)
    else match upTo? [Byte.closeBrace] t with
      | some stop => do
        let name := (t.take (stop - 1)).drop 3
        checkUtf8 0 name
        pure (name, stop)
      | none => do
        checkUtf8 0 t
        throw ⟨.badRange, t⟩
  let capital := (t.drop 1).head? == some 0x50
  let (name, outside) := match name with
    | Byte.caret :: more => (more, !capital)
    | _ => (name, capital)
  match ClassItem.property? name with
  | some i => pure ({ i with outside := i.outside != outside }, length)
  | none => throw ⟨.badRange, t.take length⟩

/-- The class that a backslash with a letter names at the front of a text, and its length. -/
def escapedClass? (t : Text) : Option (Except Error (ClassItem × Nat)) :=
  match t with
  | Byte.backslash :: c :: _ =>
    if c == 0x70 || c == 0x50 then some (property t)
    else (ClassItem.byLetter? c).map fun i => .ok (i, 2)
  | _ => none

/-- One character of a class, written plainly or escaped; `whole` is the class from its bracket
on. -/
def classChar (whole t : Text) : Except Error (Nat × Nat) :=
  match t with
  | [] => .error ⟨.openClass, whole⟩
  | Byte.backslash :: _ => escape t
  | _ => nextChar t

/-- A character or a range of a class. -/
def classRange (whole t : Text) : Except Error (ClassItem × Nat) := do
  let (low, n) ← classChar whole t
  match t.drop n with
  | Byte.hyphen :: c :: r =>
    if c == Byte.closeBracket then pure (.single low, n)
    else
      let (high, m) ← classChar whole (c :: r)
      if high < low then throw ⟨.badRange, t.take (n + 1 + m)⟩
      else pure (.range low high, n + 1 + m)
  | _ => pure (.single low, n)

/-- One part of a class, and its length. -/
def classPart (whole t : Text) : Except Error (ClassItem × Nat) :=
  let named : Option (Except Error (ClassItem × Nat)) :=
    if t.startsWith (Text.ofString "[:") && 2 < t.length then
      (upTo? (Text.ofString ":]") (t.drop 2)).map fun n =>
        match ClassItem.byName? (((t.drop 2).take n).take (n - 2)) with
        | some i => .ok (i, n + 2)
        | none => .error ⟨.badRange, t.take (n + 2)⟩
    else none
  match named <|> escapedClass? t with
  | some r => r
  | none => classRange whole t

/-- Reads the parts of a class up to its closing bracket, and gives the length of what was read. A
closing bracket at the start is a character of the class; `skip` bytes belong to the part read
last. -/
def classParts (whole : Text) (first : Bool) (parts : List ClassItem) (used : Nat) :
    Nat → Text → Except Error (List ClassItem × Nat)
  | skip + 1, _ :: r => classParts whole first parts (used + 1) skip r
  | _, [] => .error ⟨.openClass, whole⟩
  | 0, c :: r =>
    if c == Byte.closeBracket && !first then .ok (parts.reverse, used + 1)
    else match classPart whole (c :: r) with
      | .error e => .error e
      | .ok (i, n) => classParts whole false (i :: parts) (used + 1) (n - 1) r

/-- The class at the front of a text that starts with an opening bracket, and its length. -/
def readClass (fold : Bool) (t : Text) : Except Error (CharClass × Nat) := do
  let negated := (t.drop 1).head? == some Byte.caret
  let lead := if negated then 2 else 1
  let (items, n) ← classParts t true [] lead 0 (t.drop lead)
  pure (⟨items, negated, fold⟩, n)

/-! ### The reader -/

/-- How the text that follows is read. -/
structure Flags where
  /-- Letter case does not matter. -/
  fold : Bool := false
  /-- `^` and `$` also match at the ends of lines. -/
  multiLine : Bool := false
  /-- `.` also matches a line feed. -/
  dotAll : Bool := false

/-- A group that is being read. -/
structure Group where
  /-- The flags to go back to when it closes. -/
  saved : Flags := {}
  /-- The alternatives read so far, the last first. -/
  branches : List Pattern := []
  /-- The items of the alternative that is being read, the last first. -/
  items : List Pattern := []

/-- The state of the reader. -/
structure Reader where
  /-- The flags in force. -/
  flags : Flags := {}
  /-- The innermost group, or the whole pattern. -/
  group : Group := {}
  /-- The groups around it, the innermost first. -/
  outer : List Group := []
  /-- The text from the repetition on that was read last, if it was the last item. -/
  lastRepeat : Option Text := none

/-- The items in the order they were read, one after the other. -/
def sequence (items : List Pattern) : Pattern :=
  items.foldl (fun q p => match q with
    | .empty => p
    | _ => .seq p q) .empty

/-- The pattern of a group that is read to its end. -/
def Group.pattern (g : Group) : Pattern :=
  g.branches.foldl (fun q p => .alt p q) (sequence g.items)

/-- How often `{…}` at the front of a text repeats, and its length. It is no repetition when it is
not written as one. -/
def counts? (t : Text) : Option (Nat × Option Nat × Nat) :=
  let number? (t : Text) : Option (Nat × Nat) :=
    let digits := t.takeWhile Byte.isDigit
    if 1 < digits.length && digits.head? == some 0x30 then none
    else (Text.toNat? digits).map fun n => (n, digits.length)
  match number? (t.drop 1) with
  | none => none
  | some (least, n) =>
    match t.drop (1 + n) with
    | Byte.closeBrace :: _ => some (least, some least, n + 2)
    | Byte.comma :: Byte.closeBrace :: _ => some (least, none, n + 3)
    | Byte.comma :: r =>
      match number? r with
      | some (most, m) =>
        if (r.drop m).head? == some Byte.closeBrace then some (least, some most, n + m + 3)
        else none
      | none => none
    | _ => none

/-- The largest number of repetitions, of one pattern or of several within each other. -/
def maxRepeat : Nat := 1000

/-- Whether repetitions within each other come to no more than `n`. -/
def fitsRepeat (n : Nat) : Pattern → Bool
  | .seq p q => fitsRepeat n p && fitsRepeat n q
  | .alt p q => fitsRepeat n p && fitsRepeat n q
  | .times p least most =>
    let m := most.getD least
    if most == some 0 then true
    else m ≤ n && fitsRepeat (if m == 0 then n else n / m) p
  | _ => true

namespace Reader

/-- Adds an item to the innermost group. -/
def push (r : Reader) (p : Pattern) : Reader :=
  { r with group := { r.group with items := p :: r.group.items }, lastRepeat := none }

/-- Adds a single character. -/
def pushChar (r : Reader) (code : Nat) : Reader :=
  r.push (.char ⟨[.single code], false, r.flags.fold⟩)

/-- Opens a group. -/
def openGroup (r : Reader) : Reader :=
  { r with group := { saved := r.flags }, outer := r.group :: r.outer, lastRepeat := none }

/-- Closes the innermost group. -/
def closeGroup? (r : Reader) : Option Reader :=
  match r.outer with
  | [] => none
  | parent :: outer =>
    some ({ r with flags := r.group.saved, group := parent, outer }.push r.group.pattern)

/-- Starts another alternative. -/
def nextBranch (r : Reader) : Reader :=
  { r with
    group := { r.group with
      branches := sequence r.group.items :: r.group.branches
      items := [] }
    lastRepeat := none }

/-- Repeats the last item. The repetition is written by the first `width` bytes of `t`; a question
mark behind it only changes which match is preferred. -/
def repeated (r : Reader) (t : Text) (width least : Nat) (most : Option Nat) :
    Except Error (Reader × Nat) :=
  let width := if (t.drop width).head? == some Byte.question then width + 1 else width
  match r.lastRepeat, r.group.items with
  | some last, _ => .error ⟨.nestedRepeat, last.take (last.length - (t.length - width))⟩
  | none, [] => .error ⟨.nothingToRepeat, t.take width⟩
  | none, p :: items =>
    let q := Pattern.times p least most
    if (2 ≤ least || most.any (2 ≤ ·)) && !fitsRepeat maxRepeat q then
      .error ⟨.badCount, t.take width⟩
    else
      .ok ({ r with group := { r.group with items := q :: items }, lastRepeat := some t }, width)

/-- A character of the name of a group. -/
def isNameByte (c : UInt8) : Bool := Byte.isLetter c || Byte.isDigit c || c == Byte.underscore

/-- Opens a group with a name; `lead` is the length of what stands before the name. -/
def namedGroup (r : Reader) (t : Text) (lead : Nat) : Except Error (Reader × Nat) := do
  match upTo? [Byte.greater] t with
  | none =>
    checkUtf8 0 t
    throw ⟨.badName, t⟩
  | some n =>
    let name := (t.take (n - 1)).drop lead
    checkUtf8 0 name
    if name.isEmpty || !name.all isNameByte then throw ⟨.badName, t.take n⟩
    else pure (r.openGroup, n)

/-- Reads flags behind `(?` up to a colon or a closing parenthesis: `used` bytes of `t` have been
read, `off` tells that flags are being switched off, and `seen` that one has been named since. -/
def groupFlags (r : Reader) (t : Text) (flags : Flags) (off seen : Bool) (used : Nat) :
    Text → Except Error (Reader × Nat)
  | [] => .error ⟨.badGroup, t⟩
  | c :: rest =>
    match Char.ofNat c.toNat with
    | 'i' => groupFlags r t { flags with fold := !off } off true (used + 1) rest
    | 'm' => groupFlags r t { flags with multiLine := !off } off true (used + 1) rest
    | 's' => groupFlags r t { flags with dotAll := !off } off true (used + 1) rest
    | 'U' => groupFlags r t flags off true (used + 1) rest
    | '-' =>
      if off then .error ⟨.badGroup, t.take (used + 1)⟩
      else groupFlags r t flags true false (used + 1) rest
    | ':' =>
      if off && !seen then .error ⟨.badGroup, t.take (used + 1)⟩
      else .ok ({ r.openGroup with flags }, used + 1)
    | ')' =>
      if off && !seen then .error ⟨.badGroup, t.take (used + 1)⟩
      else .ok ({ r with flags, lastRepeat := none }, used + 1)
    | _ =>
      match nextChar (c :: rest) with
      | .error e => .error e
      | .ok (_, n) => .error ⟨.badGroup, t.take (used + n)⟩

/-- What starts with an opening parenthesis. -/
def openParen (r : Reader) (t : Text) : Except Error (Reader × Nat) :=
  if t.startsWith (Text.ofString "(?P<") && 4 < t.length then r.namedGroup t 4
  else if t.startsWith (Text.ofString "(?<") && 3 < t.length then r.namedGroup t 3
  else if t.startsWith (Text.ofString "(?") then r.groupFlags t r.flags false false 2 (t.drop 2)
  else .ok (r.openGroup, 1)

/-- Adds the characters of a text as they are. -/
def pushAll (r : Reader) : Nat → Text → Except Error Reader
  | _, [] => .ok r
  | skip + 1, _ :: rest => pushAll r skip rest
  | 0, c :: rest =>
    match nextChar (c :: rest) with
    | .error e => .error e
    | .ok (code, n) => pushAll (r.pushChar code) (n - 1) rest

/-- What starts with a backslash. -/
def backslash (r : Reader) (t : Text) : Except Error (Reader × Nat) :=
  let anchor (a : Anchor) : Except Error (Reader × Nat) := .ok (r.push (.anchor a), 2)
  let plain : Except Error (Reader × Nat) :=
    match escapedClass? t with
    | some (.ok (i, n)) => .ok (r.push (.char ⟨[i], false, r.flags.fold⟩), n)
    | some (.error e) => .error e
    | none =>
      match escape t with
      | .ok (code, n) => .ok (r.pushChar code, n)
      | .error e => .error e
  match t.drop 1 with
  | [] => plain
  | c :: rest =>
    match Char.ofNat c.toNat with
    | 'A' => anchor .textStart
    | 'b' => anchor .wordEdge
    | 'B' => anchor .noWordEdge
    | 'z' => anchor .textEnd
    | 'C' => .error ⟨.badEscape, t.take 2⟩
    | 'Q' =>
      let mark := Text.ofString "\\E"
      let (body, n) := match upTo? mark rest with
        | some n => (rest.take (n - 2), n)
        | none => (rest, rest.length)
      ({ r with lastRepeat := none }.pushAll 0 body).map fun r => (r, 2 + n)
    | _ => plain

/-- Reads one item at the front of a text that is not empty, and gives its length. `whole` is the
whole pattern as it is written. -/
def item (whole : Text) (r : Reader) (t : Text) (c : UInt8) : Except Error (Reader × Nat) :=
  match Char.ofNat c.toNat with
  | '(' => r.openParen t
  | ')' =>
    match r.closeGroup? with
    | some r => .ok (r, 1)
    | none => .error ⟨.unexpectedClose, whole⟩
  | '|' => .ok (r.nextBranch, 1)
  | '^' => .ok (r.push (.anchor (if r.flags.multiLine then .lineStart else .textStart)), 1)
  | '$' => .ok (r.push (.anchor (if r.flags.multiLine then .lineEnd else .textEnd)), 1)
  | '.' =>
    let items := if r.flags.dotAll then [] else [ClassItem.single 0x0A]
    .ok (r.push (.char ⟨items, true, false⟩), 1)
  | '[' =>
    match readClass r.flags.fold t with
    | .ok (k, n) => .ok (r.push (.char k), n)
    | .error e => .error e
  | '*' => r.repeated t 1 0 none
  | '+' => r.repeated t 1 1 none
  | '?' => r.repeated t 1 0 (some 1)
  | '{' =>
    match counts? t with
    | none => .ok (r.pushChar c.toNat, 1)
    | some (least, most, n) =>
      if maxRepeat < least || most.any (maxRepeat < ·) || most.any (· < least) then
        .error ⟨.badCount, t.take n⟩
      else r.repeated t n least most
  | '\\' => r.backslash t
  | _ =>
    match nextChar t with
    | .ok (code, n) => .ok (r.pushChar code, n)
    | .error e => .error e

/-- Reads items up to the end; `skip` bytes belong to the item read last. -/
def items (whole : Text) (r : Reader) : Nat → Text → Except Error Pattern
  | _, [] => if r.outer.isEmpty then .ok r.group.pattern else .error ⟨.openGroup, whole⟩
  | skip + 1, _ :: rest => items whole r skip rest
  | 0, c :: rest =>
    match r.item whole (c :: rest) c with
    | .ok (r, n) => items whole r (n - 1) rest
    | .error e => .error e

end Reader

/-- Reads a written pattern. -/
def parse (t : Text) : Except Error Pattern := Reader.items t {} 0 t

end NestedCss.Pattern
