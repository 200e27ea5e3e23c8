import NestedCss.Binary64
import NestedCss.Template.Item
import NestedCss.Text.Space
/-!
# Trees of templates

A template is a list of nodes: text, and actions with the pipelines they evaluate. Every node and
operand keeps its position, and operands can be written back, since messages quote them.
-/
namespace NestedCss.Template

/-- What a written number is where nothing tells its type. -/
inductive Constant where
  /-- A whole number. -/
  | int (n : Int)
  /-- A number with a fraction. -/
  | float (x : Binary64)
  /-- A complex number. -/
  | complex (re im : Binary64)
  /-- A whole number that is too large. -/
  | tooLarge

/-- A number as it is written, with the values it can have. -/
structure Number where
  /-- The written form. -/
  text : Text
  /-- Its value where nothing tells its type. -/
  constant : Constant
  /-- Its value as a whole number. -/
  int? : Option Int

mutual

/-- What can stand in a command. -/
inductive Operand where
  /-- `true` or `false`. -/
  | bool (pos : Nat) (value : Bool)
  /-- The current value. -/
  | dot (pos : Nat)
  /-- The absent value. -/
  | nil (pos : Nat)
  /-- A number. -/
  | number (pos : Nat) (n : Number)
  /-- A string, as it is written and as it is read. -/
  | string (pos : Nat) (written value : Text)
  /-- A field of the current value, and fields of it. -/
  | field (pos : Nat) (names : List Text)
  /-- A variable, and fields of it. -/
  | variable (pos : Nat) (names : List Text)
  /-- Fields of what another operand gives. -/
  | chain (pos : Nat) (base : Operand) (names : List Text)
  /-- The name of a function. -/
  | identifier (pos : Nat) (name : Text)
  /-- A pipeline in parentheses. -/
  | pipe (p : Pipeline)

/-- An operand with the operands it is applied to. -/
inductive Command where
  /-- A command. -/
  | mk (pos : Nat) (args : List Operand)

/-- Commands that pass their values on, and the variables that keep the last one. -/
inductive Pipeline where
  /-- A pipeline. -/
  | mk (pos : Nat) (vars : List Text) (assigns : Bool) (commands : List Command)

end

/-- The position of a command. -/
def Command.pos : Command → Nat
  | .mk pos _ => pos

/-- The operands of a command. -/
def Command.args : Command → List Operand
  | .mk _ args => args

/-- The position of a pipeline. -/
def Pipeline.pos : Pipeline → Nat
  | .mk pos _ _ _ => pos

/-- The variables of a pipeline. -/
def Pipeline.vars : Pipeline → List Text
  | .mk _ vs _ _ => vs

/-- Whether the variables of a pipeline exist before it. -/
def Pipeline.assigns : Pipeline → Bool
  | .mk _ _ b _ => b

/-- The commands of a pipeline. -/
def Pipeline.commands : Pipeline → List Command
  | .mk _ _ _ cs => cs

/-- The position of an operand. -/
def Operand.pos : Operand → Nat
  | .bool pos _ | .dot pos | .nil pos | .number pos _ | .string pos _ _ | .field pos _
  | .variable pos _ | .chain pos _ _ | .identifier pos _ => pos
  | .pipe p => p.pos

/-- A node of a template. -/
inductive Node where
  /-- Text. -/
  | text (t : Text)
  /-- The value of a pipeline. -/
  | action (p : Pipeline)
  /-- One of two lists of nodes, by the value of a pipeline; `rebinds` makes the value the current
  one. -/
  | choice (rebinds : Bool) (p : Pipeline) (yes no : List Node)
  /-- A list of nodes for each part of the value of a pipeline, or another list if there is none. -/
  | range (p : Pipeline) (body empty : List Node)
  /-- Another template, with the value of a pipeline as its current one. -/
  | call (pos : Nat) (name : Text) (p : Option Pipeline)
  /-- Leaves the innermost repetition. -/
  | leave
  /-- Goes on with the next part of the innermost repetition. -/
  | next

/-- Whether a node is nothing but blank text. -/
def Node.isBlank : Node → Bool
  | .text t => t.trimSpace.isEmpty
  | _ => false

/-! ### Written forms -/

/-- Names behind dots. -/
def dotted (names : List Text) : Text := names.flatMap fun n => Byte.dot :: n

/-- What stands in front of the commands of a pipeline. -/
def variablesText (vars : List Text) (assigns : Bool) : Text :=
  if vars.isEmpty then []
  else Text.join (Text.ofString ", ") vars ++ Text.ofString (if assigns then " = " else " := ")

mutual

/-- The written form of an operand. -/
def Operand.render : Operand → Text
  | .bool _ b => Text.ofString (if b then "true" else "false")
  | .dot _ => [Byte.dot]
  | .nil _ => Text.ofString "nil"
  | .number _ n => n.text
  | .string _ written _ => written
  | .field _ names => dotted names
  | .variable _ names => Text.join [Byte.dot] names
  | .chain _ base names => base.render ++ dotted names
  | .identifier _ name => name
  | .pipe p => [Byte.openParen] ++ p.render ++ [Byte.closeParen]

/-- The written form of a list of operands. -/
def renderArgs : List Operand → List Text
  | [] => []
  | o :: more => o.render :: renderArgs more

/-- The written form of a command. -/
def Command.render : Command → Text
  | .mk _ args => Text.join [Byte.space] (renderArgs args)

/-- The written form of a list of commands. -/
def renderCommands : List Command → List Text
  | [] => []
  | c :: more => c.render :: renderCommands more

/-- The written form of a pipeline. -/
def Pipeline.render : Pipeline → Text
  | .mk _ vars assigns commands =>
    variablesText vars assigns ++ Text.join (Text.ofString " | ") (renderCommands commands)

end

/-- The written form of a call of another template. -/
def renderCall (name : Text) (p : Option Pipeline) : Text :=
  leftDelim ++ Text.ofString "template " ++ name.quote
    ++ (match p with
      | some p => Byte.space :: p.render
      | none => [])
    ++ rightDelim

/-! ### Reading literals -/

/-- Why a literal cannot be read. -/
def invalidLiteral : Text := Text.ofString "invalid syntax"

/-- The character of an escape behind a backslash in a literal that the byte `quote` closes, as
bytes, and the length of the escape. -/
def unescape? (quote : UInt8) (t : Text) : Option (Text × Nat) :=
  let code (base width : Nat) (digits : Text) : Option Nat :=
    if digits.length < width then none else Numeral.digits? base (digits.take width)
  let scalar (width : Nat) (r : Text) : Option (Text × Nat) := do
    let n ← code 16 width r
    if n.isValidChar then some (Utf8.encodeChar (Char.ofNat n), 1 + width) else none
  match t with
  | [] => none
  | c :: r =>
    match Char.ofNat c.toNat with
    | 'a' => some ([0x07], 1)
    | 'b' => some ([0x08], 1)
    | 'f' => some ([0x0C], 1)
    | 'n' => some ([0x0A], 1)
    | 'r' => some ([0x0D], 1)
    | 't' => some ([0x09], 1)
    | 'v' => some ([0x0B], 1)
    | '\\' => some ([Byte.backslash], 1)
    | 'x' => (code 16 2 r).map fun n => ([n.toUInt8], 3)
    | 'u' => scalar 4 r
    | 'U' => scalar 8 r
    | _ =>
      if c == quote then some ([c], 1)
      else if 0x30 ≤ c && c ≤ 0x37 then
        match code 8 3 (c :: r) with
        | some n => if n < 256 then some ([n.toUInt8], 3) else none
        | none => none
      else none

/-- The value of the inside of a quoted string; `skip` bytes belong to the escape or character read
last. A byte that belongs to no character is read as U+FFFD. -/
def unquoteFrom : Nat → Text → Option Text
  | _, [] => some []
  | skip + 1, _ :: r => unquoteFrom skip r
  | 0, c :: r =>
    if c == Byte.backslash then
      match unescape? Byte.doubleQuote r with
      | some (bytes, n) => (unquoteFrom n r).map (bytes ++ ·)
      | none => none
    else
      match firstChar? (c :: r) with
      | some (d, n) => (unquoteFrom (n - 1) r).map (Utf8.encodeChar d ++ ·)
      | none => none

/-- The value of a string with its quotes. -/
def unquote? (t : Text) : Option Text :=
  let body := (t.drop 1).take (t.length - 2)
  if t.head? == some Byte.backquote then some (body.filter (· != Byte.carriageReturn))
  else unquoteFrom 0 body

/-- The code point of a character with its quotes. -/
def charConstant (t : Text) : Except Text Nat :=
  let body := t.drop 1
  let read : Option (Nat × Nat) := match body with
    | Byte.backslash :: r =>
      match unescape? Byte.singleQuote r with
      | some (bytes, n) =>
        match Utf8.first? bytes with
        | some (.scalar c, _) => some (c.toNat, n + 1)
        | some (.stray b, _) => some (b.toNat, n + 1)
        | none => none
      | none => none
    | Byte.singleQuote :: _ => none
    | _ => (firstChar? body).map fun (c, n) => (c.toNat, n)
  match read with
  | none => .error invalidLiteral
  | some (code, n) =>
    if body.drop n == [Byte.singleQuote] then .ok code
    else .error (Text.ofString "malformed character constant: " ++ t)

/-! ### Reading numbers -/

/-- Whether a whole number fits 64 bits with a sign. -/
def fitsInt (n : Int) : Bool := -Int.pow 2 63 ≤ n && n < Int.pow 2 63

/-- Whether a text has a mark of a fraction or an exponent. -/
def hasPoint (t : Text) : Bool := t.any fun c => ".eEpP".contains (Char.ofNat c.toNat)

/-- Whether a text is a whole number in hexadecimal digits, among which `e` is no exponent. -/
def isHexInt (t : Text) : Bool :=
  Binary64.isHexadecimal t && !t.any fun c => Byte.toLower c == 0x70

/-- The whole number that a floating-point number is, if it fits. -/
def wholeValue? (x : Binary64) : Option Int := x.toInt?.filter fitsInt

/-- A complex number; without an imaginary part it can be a whole number too. -/
def complexNumber (t : Text) (re im : Binary64) : Number :=
  ⟨t, .complex re im, if im.isZero then wholeValue? re else none⟩

/-- A whole number as it is written. With a sign in front of hexadecimal digits, an `e` among them
makes it a number with a fraction. -/
def wholeNumber (t : Text) (n : Int) : Number :=
  let float := Constant.float ((Binary64.ofInt? n).getD (.zero false))
  ⟨t, if hasPoint t && !isHexInt t then float else .int n, some n⟩

/-- The number that a text without an imaginary part is. -/
def realNumber (t : Text) : Except Text Number :=
  let illegal : Except Text Number := .error (Text.ofString "illegal number syntax: " ++ t.quote)
  let float (_ : Unit) : Except Text Number :=
    match Binary64.parse t with
    | .ok x =>
      if hasPoint t then .ok ⟨t, .float x, wholeValue? x⟩
      else .error (Text.ofString "integer overflow: " ++ t.quote)
    | .error _ => illegal
  match Numeral.separated? t with
  | some n =>
    if fitsInt n then .ok (wholeNumber t n)
    else if 0 ≤ n && n < Int.pow 2 64 && !Numeral.hasSign t then .ok ⟨t, .tooLarge, none⟩
    else float ()
  | none => float ()

/-- The number that a text is. -/
def number (t : Text) : Except Text Number :=
  if t.getLast? == some 0x69 then
    match Binary64.parse t.dropLast with
    | .ok x => .ok (complexNumber t (.zero false) x)
    | .error _ => realNumber t
  else realNumber t

/-- The length of the longest number at the front of a text that may be part of a complex one:
digits with a point and an exponent, in base ten or sixteen. -/
def partLength (t : Text) : Nat :=
  let sign := if Numeral.hasSign t then 1 else 0
  let body := t.drop sign
  let hex := body.take 1 == [0x30] && (body[1]?.map Byte.toLower) == some 0x78
  let isDigit (c : UInt8) : Bool :=
    Byte.isDigit c || c == Byte.underscore || (hex && (Byte.hexValue? c).isSome)
  let mark := if hex then 2 else 0
  let whole := ((body.drop mark).takeWhile isDigit).length
  let rest := body.drop (mark + whole)
  let point :=
    if rest.head? == some Byte.dot then 1 + ((rest.drop 1).takeWhile isDigit).length else 0
  let rest := rest.drop point
  let isExponent (c : UInt8) : Bool := Byte.toLower c == 0x70 || (!hex && Byte.toLower c == 0x65)
  let power :=
    if rest.head?.any isExponent then
      let s := if Numeral.hasSign (rest.drop 1) then 1 else 0
      1 + s + ((rest.drop (1 + s)).takeWhile fun c =>
        Byte.isDigit c || c == Byte.underscore).length
    else 0
  sign + mark + whole + point + power

/-- A part of a complex number. -/
def complexPart (t : Text) : Except Text Binary64 :=
  let why (word : String) : Except Text Binary64 :=
    .error (Text.ofString "strconv.ParseFloat: parsing " ++ t.quote ++ Text.ofString word)
  match Binary64.parse t with
  | .ok x => .ok x
  | .error .malformed => why ": invalid syntax"
  | .error .tooLarge => why ": value out of range"

/-- The number that a text with a real and an imaginary part is. Between the sign of the imaginary
part and its `i` there have to be digits. -/
def complexLiteral (t : Text) : Except Text Number := do
  let n := partLength t
  let rest := t.drop n
  let m := partLength (rest.drop 1)
  if !Numeral.hasSign rest || m == 0 || (rest.drop (1 + m)).head? != some 0x69 then
    throw (Text.ofString "syntax error scanning complex number")
  let re ← complexPart (t.take n)
  let im ← complexPart (rest.take (1 + m))
  return complexNumber t re im

end NestedCss.Template
