import NestedCss.Text.Category
import NestedCss.Text.Printable
import NestedCss.Text.Quoted
/-!
# Items of templates

A template is text with actions between double braces. This module cuts a template into items: the
text between actions, and inside actions the words, literals and marks of the template language. An
action that starts with `-` and a blank, or ends with a blank and `-`, takes away the blanks of the
text on that side. What cannot be read ends the items with one that tells why.
-/
namespace NestedCss.Template

/-- The words of the template language that are no names. -/
inductive Keyword where
  | block | break_ | continue_ | define | else_ | end_ | if_ | range | template | with_ | nil | dot
  deriving DecidableEq, Repr

/-- The kinds of items. -/
inductive ItemKind where
  /-- Something that cannot be read; the text tells why. -/
  | error
  /-- The end. -/
  | eof
  /-- Text outside of actions. -/
  | text
  /-- The braces that open an action. -/
  | leftDelim
  /-- The braces that close an action. -/
  | rightDelim
  /-- A run of blanks. -/
  | space
  /-- `=`. -/
  | assign
  /-- `:=`. -/
  | declare
  /-- `|`. -/
  | pipe
  /-- `(`. -/
  | leftParen
  /-- `)`. -/
  | rightParen
  /-- A quoted string. -/
  | string
  /-- A string between backquotes. -/
  | rawString
  /-- A character between single quotes. -/
  | charConstant
  /-- A number. -/
  | number
  /-- A number with a second one for its imaginary part. -/
  | complex
  /-- `true` or `false`. -/
  | bool
  /-- A dot with a name. -/
  | field
  /-- A dollar sign with a name, or alone. -/
  | variable
  /-- The name of a function. -/
  | identifier
  /-- A word of the language. -/
  | keyword (k : Keyword)
  /-- Any other printable ASCII character. -/
  | char
  deriving DecidableEq, Repr

/-- An item. -/
structure Item where
  /-- Its kind. -/
  kind : ItemKind
  /-- Its text. -/
  text : Text
  /-- The position of its first byte. -/
  pos : Nat

/-! ### Characters -/

/-- A blank of the template language. -/
def isSpace (c : UInt8) : Bool :=
  c == Byte.space || c == Byte.tab || c == Byte.carriageReturn || c == Byte.lineFeed

/-- A letter or digit of any script, or an underscore. -/
def isNameChar (c : Char) : Bool :=
  if c.toNat < 0x80 then c.isAlphanum || c == '_'
  else
    [Category.lu, Category.ll, Category.lt, Category.lm, Category.lo, Category.nd].any fun runs =>
      runs.any (·.has c.toNat)

/-- The character at the front of a text, and the number of its bytes. -/
def firstChar? (t : Text) : Option (Char × Nat) := (Utf8.first? t).map fun (s, n) => (s.toChar, n)

/-- The length of the run of name characters at the front of a text; `skip` bytes belong to the
character read last. -/
def nameRun : Nat → Text → Nat
  | _, [] => 0
  | skip + 1, _ :: r => 1 + nameRun skip r
  | 0, c :: r =>
    match firstChar? (c :: r) with
    | some (d, n) => if isNameChar d then 1 + nameRun (n - 1) r else 0
    | none => 0

/-- A character by its code point, and in quotes where it is printable. -/
def describeChar (c : Char) : Text :=
  let code := c.toNat
  let digits := (Quoted.hex 8 code).dropWhile (· == 0x30)
  let hex := (List.replicate (4 - digits.length) 0x30 ++ digits).map fun d =>
    if 0x61 ≤ d then d - 0x20 else d
  Text.ofString "U+" ++ hex ++
    if Printable.isPrintable c then Text.ofString " '" ++ Utf8.encodeChar c ++ Text.ofString "'"
    else []

/-! ### Delimiters -/

/-- The braces that open an action. -/
def leftDelim : Text := [Byte.openBrace, Byte.openBrace]

/-- The braces that close an action. -/
def rightDelim : Text := [Byte.closeBrace, Byte.closeBrace]

/-- Whether a text starts with a mark that takes blanks on the left away. -/
def startsWithLeftTrim : Text → Bool
  | a :: b :: _ => a == Byte.hyphen && isSpace b
  | _ => false

/-- Whether a text starts with a mark that takes blanks on the right away. -/
def startsWithRightTrim : Text → Bool
  | a :: b :: _ => isSpace a && b == Byte.hyphen
  | _ => false

/-- Whether an action closes at the front of a text, and whether it takes blanks away. -/
def closing? (t : Text) : Option Bool :=
  if startsWithRightTrim t && Text.startsWith (t.drop 2) rightDelim then some true
  else if t.startsWith rightDelim then some false
  else none

/-- Whether a word ends where this text starts. -/
def atTerminator (t : Text) : Bool :=
  match t with
  | [] => true
  | c :: _ =>
    isSpace c || c == Byte.dot || c == Byte.comma || c == Byte.bar || c == Byte.colon
      || c == Byte.closeParen || c == Byte.openParen || t.startsWith rightDelim

/-- The length of the blanks at the front. -/
def blankRun (t : Text) : Nat := (t.takeWhile isSpace).length

/-- The position of the first occurrence of `mark`. -/
def find? (mark : Text) : Text → Option Nat
  | [] => if mark.isEmpty then some 0 else none
  | c :: r => if Text.startsWith (c :: r) mark then some 0 else (find? mark r).map (· + 1)

/-! ### Literals -/

/-- The length of a quoted literal behind its opening quote, with the closing one; a line end or the
end of the text leaves it open. `escaped` tells that a backslash stands before. -/
def quotedRun (quote : UInt8) : Bool → Text → Option Nat
  | _, [] => none
  | escaped, c :: r =>
    if c == Byte.lineFeed then none
    else if escaped then (quotedRun quote false r).map (· + 1)
    else if c == quote then some 1
    else (quotedRun quote (c == Byte.backslash) r).map (· + 1)

/-- The length of a number at the front of a text, and whether it is one. -/
def scanNumber (t : Text) : Nat × Bool :=
  let accept (n : Nat) (set : String) : Nat :=
    if ((t.drop n).head?.map fun c => set.contains (Char.ofNat c.toNat)).getD false then n + 1
    else n
  let acceptRun (n : Nat) (set : String) : Nat :=
    n + ((t.drop n).takeWhile fun c => set.contains (Char.ofNat c.toNat)).length
  let n := accept 0 "+-"
  let lead := accept n "0"
  let base := if lead == n then lead else
    let x := accept lead "xX"
    let o := accept lead "oO"
    max x (max o (accept lead "bB"))
  let kind := if base == lead then ' ' else Char.ofNat ((t.drop lead).headD 0).toNat
  let hex := kind == 'x' || kind == 'X'
  let decimal := kind == ' '
  let digits :=
    if hex then "0123456789abcdefABCDEF_"
    else if kind == 'o' || kind == 'O' then "01234567_"
    else if decimal then "0123456789_" else "01_"
  let n := acceptRun base digits
  let point := accept n "."
  let n := if point == n then n else acceptRun point digits
  let e := if decimal then accept n "eE" else n
  let n := if e == n then n else acceptRun (accept e "+-") "0123456789_"
  let p := if hex then accept n "pP" else n
  let n := if p == n then n else acceptRun (accept p "+-") "0123456789_"
  let n := accept n "i"
  match firstChar? (t.drop n) with
  | some (c, w) => if isNameChar c then (n + w, false) else (n, true)
  | none => (n, true)

/-! ### Cutting -/

/-- Where the reader is. -/
inductive Mode where
  /-- Outside of actions. -/
  | text
  /-- Inside an action, with this many parentheses open. -/
  | action (depth : Nat)

/-- Why nothing can be read at the front of a text. -/
structure Fault where
  /-- The wording. -/
  message : Text
  /-- How far behind the front the fault is. -/
  offset : Nat := 0

/-- Nothing can be read at the front of a text. -/
def fault {α : Type} (message : Text) : Except Fault α := .error { message }

/-- What is found at the front of a text: an item of some length, if any, the number of bytes to go
on behind, and where the reader is then. -/
structure Step where
  /-- The kind of the item, where one is made, and the bytes it leaves out at its start and the
  bytes it has. -/
  item : Option (ItemKind × Nat × Nat)
  /-- The number of bytes that are passed over. -/
  width : Nat
  /-- Where the reader is then. -/
  mode : Mode

/-- The keyword that a word is. -/
def Keyword.ofWord? (t : Text) : Option Keyword :=
  ([("block", .block), ("break", .break_), ("continue", .continue_), ("define", .define),
    ("else", .else_), ("end", .end_), ("if", .if_), ("nil", .nil), ("range", .range),
    ("template", .template), ("with", .with_)].find? fun (e : String × Keyword) =>
      Text.ofString e.1 == t).map (·.2)

/-- A comment at the front of a text, from its opening mark on; `lead` is the length of what opens
the action before it. -/
def commentStep (lead : Nat) (t : Text) : Except Fault Step :=
  match find? (Text.ofString "*/") (t.drop 2) with
  | none => .error ⟨Text.ofString "unclosed comment", lead⟩
  | some n =>
    let rest := t.drop (n + 4)
    match closing? rest with
    | none => .error ⟨Text.ofString "comment ends before closing delimiter", lead⟩
    | some trim =>
      let width := if trim then 4 + blankRun (rest.drop 4) else 2
      .ok ⟨none, lead + n + 4 + width, .text⟩

/-- The step at the front of a text outside of actions. -/
def textStep (t : Text) : Except Fault Step :=
  match find? leftDelim t with
  | none => .ok ⟨some (.text, 0, t.length), t.length, .text⟩
  | some 0 =>
    let trim := if startsWithLeftTrim (t.drop 2) then 2 else 0
    if Text.startsWith (t.drop (2 + trim)) (Text.ofString "/*") then
      commentStep (2 + trim) (t.drop (2 + trim))
    else .ok ⟨some (.leftDelim, 0, 2), 2 + trim, .action 0⟩
  | some n =>
    let kept :=
      if startsWithLeftTrim (t.drop (n + 2)) then (Text.trimRightBy isSpace (t.take n)).length
      else n
    .ok ⟨if kept == 0 then none else some (.text, 0, kept), n, .text⟩

/-- A word behind a dot or a dollar sign. -/
def nameStep (kind : ItemKind) (depth : Nat) (t : Text) : Except Fault Step :=
  let rest := t.drop 1
  if atTerminator rest then
    .ok ⟨some (if kind == .variable then .variable else .keyword .dot, 0, 1), 1, .action depth⟩
  else
    let n := nameRun 0 rest
    if atTerminator (rest.drop n) then .ok ⟨some (kind, 0, n + 1), n + 1, .action depth⟩
    else match firstChar? (rest.drop n) with
      | some (c, _) => fault (Text.ofString "bad character " ++ describeChar c)
      | none => .ok ⟨some (kind, 0, n + 1), n + 1, .action depth⟩

/-- A word. -/
def wordStep (depth : Nat) (t : Text) : Except Fault Step :=
  let n := nameRun 0 t
  let word := t.take n
  let kind : ItemKind :=
    match Keyword.ofWord? word with
    | some k => .keyword k
    | none =>
      if word == Text.ofString "true" || word == Text.ofString "false" then .bool else .identifier
  if atTerminator (t.drop n) then .ok ⟨some (kind, 0, n), n, .action depth⟩
  else match firstChar? (t.drop n) with
    | some (c, _) => fault (Text.ofString "bad character " ++ describeChar c)
    | none => .ok ⟨some (kind, 0, n), n, .action depth⟩

/-- A number. A sign behind it starts an imaginary part, which has to end in `i`. -/
def numberStep (depth : Nat) (t : Text) : Except Fault Step :=
  let (n, ok) := scanNumber t
  let bad (n : Nat) : Except Fault Step :=
    fault (Text.ofString "bad number syntax: " ++ Text.quote (t.take n))
  if !ok then bad n
  else if (t.drop n).head? == some Byte.plus || (t.drop n).head? == some Byte.hyphen then
    let (m, ok) := scanNumber (t.drop n)
    if ok && t[n + m - 1]? == some 0x69 then .ok ⟨some (.complex, 0, n + m), n + m, .action depth⟩
    else bad (n + m)
  else .ok ⟨some (.number, 0, n), n, .action depth⟩

/-- A literal between quotes. -/
def quotedStep (kind : ItemKind) (length : Option Nat) (message : String) (depth : Nat) :
    Except Fault Step :=
  match length with
  | some n => .ok ⟨some (kind, 0, n + 1), n + 1, .action depth⟩
  | none => fault (Text.ofString message)

/-- A run of blanks. The last of them may belong to the mark that closes the action. -/
def spaceStep (depth : Nat) (t : Text) : Except Fault Step :=
  let n := blankRun t
  let n := if closing? (t.drop (n - 1)) == some true then n - 1 else n
  .ok ⟨some (.space, 0, n), n, .action depth⟩

/-- The step at the front of a text inside an action. -/
def actionStep (depth : Nat) (t : Text) : Except Fault Step :=
  let mark (kind : ItemKind) (n : Nat) (depth : Nat) : Except Fault Step :=
    .ok ⟨some (kind, 0, n), n, .action depth⟩
  match closing? t with
  | some trim =>
    if depth != 0 then fault (Text.ofString "unclosed left paren")
    else if trim then .ok ⟨some (.rightDelim, 2, 2), 4 + blankRun (t.drop 4), .text⟩
    else .ok ⟨some (.rightDelim, 0, 2), 2, .text⟩
  | none =>
    match t with
    | [] => fault (Text.ofString "unclosed action")
    | c :: r =>
      if isSpace c then spaceStep depth t
      else match c with
        | Byte.equals => mark .assign 1 depth
        | Byte.colon =>
          if r.head? == some Byte.equals then mark .declare 2 depth
          else fault (Text.ofString "expected :=")
        | Byte.bar => mark .pipe 1 depth
        | Byte.doubleQuote =>
          quotedStep .string (quotedRun c false r) "unterminated quoted string" depth
        | Byte.backquote =>
          quotedStep .rawString ((find? [c] r).map (· + 1)) "unterminated raw quoted string" depth
        | Byte.dollar => nameStep .variable depth t
        | Byte.singleQuote =>
          quotedStep .charConstant (quotedRun c false r) "unterminated character constant" depth
        | Byte.openParen => mark .leftParen 1 (depth + 1)
        | Byte.closeParen =>
          if depth == 0 then fault (Text.ofString "unexpected right paren")
          else mark .rightParen 1 (depth - 1)
        | Byte.plus | Byte.hyphen => numberStep depth t
        | Byte.dot =>
          if (r.head?.map Byte.isDigit).getD true then numberStep depth t
          else nameStep .field depth t
        | _ =>
          if Byte.isDigit c then numberStep depth t
          else match firstChar? t with
            | some (d, _) =>
              if isNameChar d then wordStep depth t
              else if d.toNat < 0x80 && Printable.isPrintable d then mark .char 1 depth
              else fault (Text.ofString "unrecognized character in action: " ++ describeChar d)
            | none => fault (Text.ofString "unclosed action")

/-- Cuts a template from position `pos` on; `skip` bytes belong to the step taken last. -/
def itemsFrom (mode : Mode) (pos : Nat) : Nat → Text → List Item
  | skip + 1, _ :: r => itemsFrom mode (pos + 1) skip r
  | _, [] =>
    match mode with
    | .text => [⟨.eof, [], pos⟩]
    | .action depth =>
      match actionStep depth [] with
      | .error e => [⟨.error, e.message, pos + e.offset⟩]
      | .ok _ => [⟨.eof, [], pos⟩]
  | 0, c :: r =>
    let step := match mode with
      | .text => textStep (c :: r)
      | .action depth => actionStep depth (c :: r)
    match step with
    | .error e => [⟨.error, e.message, pos + e.offset⟩]
    | .ok s =>
      let rest := itemsFrom s.mode (pos + 1) (s.width - 1) r
      match s.item with
      | some (kind, lead, n) => ⟨kind, ((c :: r).drop lead).take n, pos + lead⟩ :: rest
      | none => rest

/-- The items of a template; the last one is the end or an error. -/
def items (t : Text) : List Item := itemsFrom .text 0 0 t

/-- An item in a message. -/
def Item.describe (i : Item) : Text :=
  match i.kind with
  | .eof => Text.ofString "EOF"
  | .error => i.text
  | .keyword _ => Text.ofString "<" ++ i.text ++ Text.ofString ">"
  | _ =>
    if 10 < i.text.length then
      Text.quote (Utf8.take 10 i.text) ++ Text.ofString "..."
    else i.text.quote

end NestedCss.Template
