import NestedCss.Path
import NestedCss.Template.Format
import NestedCss.Text.CaseMap
/-!
# Functions of templates

The functions that templates can call, and the ones that values bring along.
-/
namespace NestedCss.Template

/-- What an argument of a function has to be. -/
inductive Param where
  /-- Any value. -/
  | any
  /-- A string. -/
  | string
  /-- A plain number. -/
  | int
  /-- A length of time. -/
  | duration
  /-- A point in time. -/
  | time
  /-- A time zone, or none. -/
  | location
  /-- A list of bytes, or none. -/
  | bytes
  deriving DecidableEq

namespace Param

/-- The name of what an argument has to be. -/
def name : Param → Text
  | any => Text.ofString "interface {}"
  | string => Text.ofString "string"
  | int => Text.ofString "int"
  | duration => Text.ofString "time.Duration"
  | time => Text.ofString "time.Time"
  | location => Text.ofString "*time.Location"
  | bytes => Text.ofString "[]uint8"

/-- Whether a value may be passed. -/
def accepts : Param → Value → Bool
  | any, _ => true
  | string, .str _ => true
  | int, .int .int _ => true
  | duration, .int .duration _ => true
  | time, .time _ => true
  | location, .location | location, .nil => true
  | bytes, .bytes _ _ | bytes, .nil => true
  | _, _ => false

/-- The number that is passed for a written one, if it may be one. -/
def ofInt? : Param → Int → Option Value
  | int, n => some (.int .int n)
  | duration, n => some (.int .duration n)
  | _, _ => none

end Param

/-- A function: what its arguments have to be, what any further ones have to be, and what it gives.
An error is told by its wording. -/
structure Function where
  /-- The fixed arguments. -/
  fixed : List Param
  /-- The further arguments, if there may be any. -/
  rest : Option Param := none
  /-- What it gives. -/
  run : List Value → Except Text Value
  /-- Why a template cannot use what it gives, if it cannot. -/
  unfit : Option Text := none

/-! ### Comparing -/

/-- The kinds of values that can be compared. -/
inductive Basic where
  | bool | int | float | complex | string | other
  deriving DecidableEq

namespace Value

/-- The kind of a value. -/
def basic : Value → Basic
  | .bool _ => .bool
  | .int .. => .int
  | .float _ => .float
  | .complex .. => .complex
  | .str _ => .string
  | _ => .other

/-- The wording when two values cannot be compared with each other. -/
def incomparable : Text := Text.ofString "incompatible types for comparison"

/-- The wording when a value cannot be compared at all. -/
def unordered : Text := Text.ofString "invalid type for comparison"

/-- A value and its type in a message. -/
def withType (v : Value) : Text :=
  Verb.apply {} 's' v ++ Text.ofString ": " ++ v.typeName

/-- Whether two values that are no numbers, strings or truth values are equal. Lists and records
cannot be compared. -/
def equalsOther (a b : Value) : Except Text Bool :=
  match a, b with
  | .nil, .nil => .ok true
  | .nil, _ | _, .nil => .ok false
  | _, _ =>
    if a.kindName != b.kindName then
      .error (Text.ofString "non-comparable types " ++ a.withType ++ Text.ofString ", "
        ++ b.typeName ++ Text.ofString ": " ++ b.print)
    else match a, b with
      | .time x, .time y => .ok (x == y)
      | _, .time _ => .ok false
      | .location, .location => .ok true
      | _, _ => .error (Text.ofString "non-comparable type " ++ b.withType)

/-- Whether two values are equal. -/
def equals (a b : Value) : Except Text Bool :=
  match a, b with
  | .bool x, .bool y => .ok (x == y)
  | .int _ x, .int _ y => .ok (x == y)
  | .float x, .float y => .ok (x.sameValue y)
  | .complex x y, .complex z w => .ok (x.sameValue z && y.sameValue w)
  | .str x, .str y => .ok (x == y)
  | .nil, _ | _, .nil => equalsOther a b
  | _, _ => if a.basic != b.basic then .error incomparable else equalsOther a b

/-- Whether one value is less than another. -/
def less (a b : Value) : Except Text Bool :=
  match a, b with
  | .int _ x, .int _ y => .ok (x < y)
  | .float x, .float y => .ok (x.less y)
  | .str x, .str y => .ok (Text.compareBytes x y == .lt)
  | _, _ =>
    if a.basic == .other || b.basic == .other then .error unordered
    else if a.basic != b.basic then .error incomparable
    else .error unordered

/-- Whether one value is less than another, or equal to it. -/
def lessOrEqual (a b : Value) : Except Text Bool := do
  if ← a.less b then pure true else a.equals b

end Value

/-- Whether the first value equals one of the others. -/
def equalsAny : List Value → Except Text Value
  | a :: b :: more => do
    let found ← (b :: more).anyM fun v => a.equals v
    pure (.bool found)
  | _ => .error (Text.ofString "missing argument for comparison")

/-- A function that compares two values. -/
def comparison (f : Value → Value → Except Text Bool) : Function where
  fixed := [.any, .any]
  run := fun vs => match vs with
    | [a, b] => (f a b).map Value.bool
    | _ => .error Value.unordered

/-! ### Parts of values -/

/-- The name of the type of what a value stands for. -/
def Value.targetName (v : Value) : Text :=
  match v with
  | .location => Text.ofString "time.Location"
  | _ => v.typeName

/-- The length of a value. -/
def length (v : Value) : Except Text Value :=
  match v with
  | .str t => .ok (.num t.length)
  | .strings ts _ => .ok (.num ts.length)
  | .bytes t _ => .ok (.num t.length)
  | .nil => .error (Text.ofString "reflect: call of reflect.Value.Type on zero Value")
  | _ => .error (Text.ofString "len of type " ++ v.targetName)

/-- The position that a value stands for in something of a length. -/
def position (v : Value) (size : Nat) : Except Text Nat :=
  match v with
  | .int _ n =>
    if n < 0 || (size : Int) < n then .error (Text.ofString "index out of range: " ++ Text.ofInt n)
    else .ok n.toNat
  | .nil => .error (Text.ofString "cannot index slice/array with nil")
  | _ => .error (Text.ofString "cannot index slice/array with type " ++ v.typeName)

/-- One part of a value. -/
def index1 (v i : Value) : Except Text Value :=
  match v with
  | .strings ts _ => do
    match ts[← position i ts.length]? with
    | some t => pure (.str t)
    | none => .error (Text.ofString "reflect: slice index out of range")
  | .bytes t _ => do
    match t[← position i t.length]? with
    | some b => pure (.int .byte b.toNat)
    | none => .error (Text.ofString "reflect: slice index out of range")
  | .str t => do
    match t[← position i t.length]? with
    | some b => pure (.int .byte b.toNat)
    | none => .error (Text.ofString "reflect: string index out of range")
  | _ => .error (Text.ofString "can't index item of type " ++ v.targetName)

/-- A part of a part of a value, and so on. -/
def index : List Value → Except Text Value
  | [] | .nil :: _ => .error (Text.ofString "index of untyped nil")
  | v :: is => is.foldlM index1 v

/-- How far parts of a value can reach, and how far the value itself does. -/
def sliceBounds (v : Value) (count : Nat) : Except Text (Nat × Nat) :=
  match v with
  | .str t =>
    if count == 3 then .error (Text.ofString "cannot 3-index slice a string")
    else .ok (t.length, t.length)
  | .strings ts beyond => .ok (ts.length + beyond.length, ts.length)
  | .bytes t beyond => .ok (t.length + beyond.length, t.length)
  | _ => .error (Text.ofString "can't slice item of type " ++ v.typeName)

/-- The elements from `low` to `high`, and those behind them up to `stop`. -/
def cutOut {α : Type} (all : List α) (low high stop : Nat) : List α × List α :=
  ((all.take high).drop low, (all.take stop).drop high)

/-- A run of parts of a value. It remembers what a list holds behind it, up to the third position,
so that a later run can reach it again. -/
def slice : List Value → Except Text Value
  | [] | .nil :: _ => .error (Text.ofString "slice of untyped nil")
  | v :: is => do
    if 3 < is.length then
      throw (Text.ofString "too many slice indexes: " ++ Text.ofNat is.length)
    let (reach, size) ← sliceBounds v is.length
    let ps ← is.mapM fun i => position i reach
    let low := ps.getD 0 0
    let high := ps.getD 1 size
    let stop := ps.getD 2 reach
    let outOfOrder (a b : Nat) : Text :=
      Text.ofString "invalid slice index: " ++ Text.ofNat a ++ Text.ofString " > " ++ Text.ofNat b
    if high < low then throw (outOfOrder low high)
    if stop < high then throw (outOfOrder high stop)
    match v with
    | .str t => pure (.str ((t.take high).drop low))
    | .strings ts beyond =>
      let (ts, beyond) := cutOut (ts ++ beyond) low high stop
      pure (.strings ts beyond)
    | .bytes t beyond =>
      let (t, beyond) := cutOut (t ++ beyond) low high stop
      pure (.bytes t beyond)
    | _ => pure .nil

/-- The first or the last part of a list. -/
def endOf (word : String) (part : {α : Type} → List α → Option α) : Function where
  fixed := [.any]
  run := fun vs => match vs with
    | [.strings ts _] => .ok ((part ts).elim .nil .str)
    | [.bytes t _] => .ok ((part t).elim .nil fun b => .int .byte b.toNat)
    | [.nil] =>
      .error (Text.ofString "runtime error: invalid memory address or nil pointer dereference")
    | [v] => .error (Text.ofString ("Cannot find " ++ word ++ " on type ") ++ v.kindName)
    | _ => .ok .nil

/-! ### Texts -/

/-- A value as a text: bytes are one already, and other values are printed. -/
def Value.toText : Value → Text
  | .bytes t _ => t
  | v => v.print

/-- A function from texts to a string. -/
def textFunction (params : List Param) (f : List Text → Text) : Function where
  fixed := params
  run := fun vs => .ok (.str (f (vs.map Value.toText)))

/-- `t` with every occurrence of `old` replaced; the empty text occurs around every character. -/
def replaceIn (old new t : Text) : Text :=
  if old.isEmpty then new ++ (Utf8.symbols t).flatMap fun s => s.bytes ++ new
  else t.replaceAll old new

/-- The texts that a value lists. -/
def textsOf : Value → List Text
  | .strings ts _ => ts
  | .bytes t _ => t.map fun b => Text.ofNat b.toNat
  | .nil => []
  | v => [v.print]

/-- Text that is safe between the tags of markup. -/
def escapeMarkup (t : Text) : Text :=
  t.flatMap fun c => match Char.ofNat c.toNat with
    | '<' => Text.ofString "&lt;"
    | '>' => Text.ofString "&gt;"
    | '&' => Text.ofString "&amp;"
    | '\'' => Text.ofString "&#39;"
    | '\x22' => Text.ofString "&#34;"
    | '\x00' => Utf8.encodeChar Symbol.replacement
    | _ => [c]

/-- The two capital hexadecimal digits of a byte. -/
def hexByte (b : UInt8) : Text := Verb.capitals (Quoted.hex 2 b.toNat)

/-- Text that is safe inside a string of a script. Characters outside of ASCII are kept where they
are printable. -/
def escapeScript (t : Text) : Text :=
  (Utf8.symbols t).flatMap fun s => match s with
    | .stray b => [b]
    | .scalar c =>
      match c with
      | '\\' => Text.ofString "\\\\"
      | '\'' => Text.ofString "\\'"
      | '\x22' => Text.ofString "\\\x22"
      | '<' => Text.ofString "\\u003C"
      | '>' => Text.ofString "\\u003E"
      | '&' => Text.ofString "\\u0026"
      | '=' => Text.ofString "\\u003D"
      | _ =>
        if c.toNat < 0x20 then Text.ofString "\\u00" ++ hexByte c.toNat.toUInt8
        else if c.toNat < 0x80 || Printable.isPrintable c then Utf8.encodeChar c
        else Text.ofString "\\u" ++ Verb.capitals (Verb.int { precision := some 4 } c.toNat 16 [])

/-- Text that is safe in the query of an address. -/
def escapeQuery (t : Text) : Text :=
  t.flatMap fun c =>
    if Byte.isLetter c || Byte.isDigit c || c == Byte.hyphen || c == Byte.underscore
        || c == Byte.dot || c == Byte.tilde then [c]
    else if c == Byte.space then [Byte.plus]
    else Byte.percent :: hexByte c

/-! ### The table -/

/-- A function of any number of values. -/
def variadic (f : List Value → Except Text Value) : Function where
  fixed := []
  rest := some .any
  run := f

/-- A function of one value and any number of others. -/
def variadic1 (f : List Value → Except Text Value) : Function where
  fixed := [.any]
  rest := some .any
  run := f

/-- A function that prints its values and makes the text safe. -/
def escaping (f : Text → Text) : Function :=
  variadic fun vs => .ok (.str (f (printAll (vs.map fun v => match v with
    | .nil => .str (Text.ofString "<no value>")
    | _ => v))))

/-- The functions by name. What `call` is given first is the written form of what it calls. -/
def functions : List (String × Function) := [
  ("and", variadic1 fun vs => .ok (vs.getLastD .nil)),
  ("or", variadic1 fun vs => .ok (vs.getLastD .nil)),
  ("not", { fixed := [.any], run := fun vs => .ok (.bool (!(vs.headD .nil).isTrue)) }),
  ("len", { fixed := [.any], run := fun vs => length (vs.headD .nil) }),
  ("index", variadic1 index),
  ("slice", variadic1 slice),
  ("print", variadic fun vs => .ok (.str (printAll vs))),
  ("println", variadic fun vs =>
    .ok (.str (Text.join [Byte.space] (vs.map Value.print) ++ [Byte.lineFeed]))),
  ("printf", { fixed := [.string], rest := some .any, run := fun vs => match vs with
    | .str f :: more => .ok (.str (Format.write f more))
    | _ => .ok (.str []) }),
  ("html", escaping escapeMarkup),
  ("js", escaping escapeScript),
  ("urlquery", escaping escapeQuery),
  ("call", variadic1 fun vs => match vs with
    | _ :: .nil :: _ => .error (Text.ofString "call of nil")
    | name :: v :: _ => .error (Text.ofString "non-function " ++ name.print
        ++ Text.ofString " of type " ++ v.typeName)
    | _ => .ok .nil),
  ("eq", variadic1 equalsAny),
  ("ne", comparison fun a b => (a.equals b).map (!·)),
  ("lt", comparison Value.less),
  ("le", comparison Value.lessOrEqual),
  ("gt", comparison fun a b => (a.lessOrEqual b).map (!·)),
  ("ge", comparison fun a b => (a.less b).map (!·)),
  ("first", endOf "first" List.head?),
  ("last", endOf "last" List.getLast?),
  ("base", textFunction [.string] fun ts => Path.name (ts.headD [])),
  ("dir", textFunction [.string] fun ts => Path.directory (ts.headD [])),
  ("toString", textFunction [.any] (·.headD [])),
  ("upper", textFunction [.string] fun ts => Text.toUpper (ts.headD [])),
  ("lower", textFunction [.string] fun ts => Text.toLower (ts.headD [])),
  ("quote", variadic fun vs =>
    let present := vs.filter fun v => match v with
      | .nil => false
      | _ => true
    .ok (.str (Text.join [Byte.space] (present.map fun v => v.toText.quote)))),
  ("join", { fixed := [.string, .any], run := fun vs => match vs with
    | [.str sep, v] => .ok (.str (Text.join sep (textsOf v)))
    | _ => .ok (.str []) }),
  ("trimSuffix", textFunction [.string, .string] fun ts => match ts with
    | [s, t] => if t.endsWith s then t.take (t.length - s.length) else t
    | _ => []),
  ("repeat", { fixed := [.int, .string], run := fun vs => match vs with
    | [.int _ n, .str t] =>
      if n < 0 then .error (Text.ofString "strings: negative Repeat count")
      else .ok (.str (Text.replicate n.toNat t))
    | _ => .ok (.str []) }),
  ("replace", textFunction [.string, .string, .string] fun ts => match ts with
    | [old, new, t] => replaceIn old new t
    | _ => []),
  ("default", variadic1 fun vs => match vs with
    | d :: given :: _ => .ok (if given.isTrue then given else d)
    | _ => .ok (vs.headD .nil))]

/-- The function with a name in a table. -/
def Function.find? (table : List (String × Function)) (name : Text) : Option Function :=
  (table.find? fun f => Text.ofString f.1 == name).map (·.2)

/-- The function with a name. -/
def function? (name : Text) : Option Function := Function.find? functions name

/-! ### Functions that values bring along -/

/-- A function without arguments. -/
def constantly (v : Value) : Function where
  fixed := []
  run := fun _ => .ok v

/-- A function of a point in time. -/
def ofTime (f : DateTime → Value) : Function where
  fixed := [.time]
  run := fun vs => match vs with
    | [.time t] => .ok (f t)
    | _ => .ok .nil

/-- A function of a length of time. -/
def ofDuration (f : Duration → Value) : Function where
  fixed := [.duration]
  run := fun vs => match vs with
    | [.int _ n] => .ok (f ⟨n⟩)
    | _ => .ok .nil

/-- A function that puts bytes behind others. -/
def appending (params : List Param) (f : List Value → Text) : Function where
  fixed := .bytes :: params
  run := fun vs => match vs with
    | .bytes t _ :: more => .ok (.bytes (t ++ f more) [])
    | _ :: more => .ok (.bytes (f more) [])
    | [] => .ok .nil

/-- A function with `count` results, of which a template can use only one. -/
def withResults (name : String) (count : Nat) : Function where
  fixed := []
  run := fun _ => .ok .nil
  unfit := some (Text.ofString "function " ++ Text.ofString name ++ Text.ofString " has "
    ++ Text.ofNat count ++ Text.ofString " return values; should be 1 or 2")

/-- A function with a second result of the type `second`, which is no error. -/
def withSecond (name second : String) : Function where
  fixed := []
  run := fun _ => .ok .nil
  unfit := some (Text.ofString "invalid function signature for " ++ Text.ofString name
    ++ Text.ofString ": second return value should be error; is " ++ Text.ofString second)

/-- The bytes of a number, the highest first. -/
def bigEndian : Nat → Nat → Text
  | 0, _ => []
  | width + 1, n => bigEndian width (n / 256) ++ [(n % 256).toUInt8]

/-- A point in time as bytes: a version, the seconds since the start of the year one, the
nanoseconds and a mark for universal time. -/
def timeBytes (t : DateTime) : Text :=
  [1] ++ bigEndian 8 t.seconds.toNat ++ bigEndian 4 t.nanosecond ++ [0xFF, 0xFF]

/-- A length of time as a value. -/
def durationValue (d : Duration) : Value := .int .duration d.nanoseconds

/-- What a point in time can be asked for. -/
def timeMethods (t : DateTime) : List (String × Function) :=
  let int (k : IntKind) (n : Int) : Function := constantly (.int k n)
  let ordering : DateTime → Ordering := fun u => compare t.nanoseconds u.nanoseconds
  [("Year", int .int t.year), ("Month", int .month t.month), ("Day", int .int t.day),
    ("Hour", int .int t.hour), ("Minute", int .int t.minute), ("Second", int .int t.second),
    ("Nanosecond", int .int t.nanosecond), ("Weekday", int .weekday t.weekday),
    ("YearDay", int .int t.yearDay), ("Unix", int .long t.unix),
    ("UnixMilli", int .long (t.nanoseconds / 1000000)),
    ("UnixMicro", int .long (t.nanoseconds / 1000)), ("UnixNano", int .long t.nanoseconds),
    ("IsZero", constantly (.bool (t.seconds == 0 && t.nanosecond == 0))),
    ("IsDST", constantly (.bool false)), ("UTC", constantly (.time t)),
    ("Local", constantly (.time t)), ("Location", constantly .location),
    ("String", constantly (.str t.toText)), ("GoString", constantly (.str t.toCode)),
    ("Format", textFunction [.string] fun ts => t.format (ts.headD [])),
    ("After", ofTime fun u => .bool (ordering u == .gt)),
    ("Before", ofTime fun u => .bool (ordering u == .lt)),
    ("Equal", ofTime fun u => .bool (ordering u == .eq)),
    ("Compare", ofTime fun u => .num (match ordering u with
      | .lt => -1
      | .eq => 0
      | .gt => 1)),
    ("Sub", ofTime fun u => durationValue (t.since u)),
    ("Add", ofDuration fun d => .time (t.add d)),
    ("Round", ofDuration fun d => .time (t.round d)),
    ("Truncate", ofDuration fun d => .time (t.truncate d)),
    ("AddDate", { fixed := [.int, .int, .int], run := fun vs => match vs with
      | [.int _ y, .int _ m, .int _ d] => .ok (.time (t.addDate y m d))
      | _ => .ok .nil }),
    ("In", { fixed := [.location], run := fun vs => match vs with
      | [.location] => .ok (.time t)
      | _ => .error (Text.ofString "time: missing Location in call to Time.In") }),
    ("MarshalText", constantly (.bytes t.toStamp [])),
    ("MarshalJSON", constantly (.bytes t.toStamp.quote [])),
    ("MarshalBinary", constantly (.bytes (timeBytes t) [])),
    ("GobEncode", constantly (.bytes (timeBytes t) [])),
    ("AppendText", appending [] fun _ => t.toStamp),
    ("AppendBinary", appending [] fun _ => timeBytes t),
    ("AppendFormat", appending [.string] fun vs => t.format (vs.headD .nil).toText),
    ("Clock", withResults "Clock" 3), ("Date", withResults "Date" 3),
    ("ISOWeek", withSecond "ISOWeek" "int"), ("Zone", withSecond "Zone" "int"),
    ("ZoneBounds", withSecond "ZoneBounds" "time.Time")]

/-- What a length of time can be asked for. -/
def durationMethods (d : Duration) : List (String × Function) :=
  let n := d.nanoseconds
  let long (unit : Int) : Function := constantly (.int .long (n.tdiv unit))
  let float (unit : Nat) : Function :=
    constantly (.float (Binary64.wholeAndPart (n.tdiv unit) (n.tmod unit) unit))
  [("String", constantly (.str d.toText)), ("Nanoseconds", long 1), ("Microseconds", long 1000),
    ("Milliseconds", long 1000000), ("Seconds", float Duration.second),
    ("Minutes", float (60 * Duration.second)), ("Hours", float (3600 * Duration.second)),
    ("Abs", constantly (durationValue d.abs)),
    ("Round", ofDuration fun unit => durationValue (d.round unit)),
    ("Truncate", ofDuration fun unit => durationValue (d.truncate unit))]

namespace Value

/-- What a value can be asked for by name, apart from its fields. -/
def method? (v : Value) (name : Text) : Option Function :=
  match v with
  | .time t => Function.find? (timeMethods t) name
  | .int .duration n => Function.find? (durationMethods ⟨n⟩) name
  | .int .month _ | .int .weekday _ | .location =>
    Function.find? [("String", constantly (.str v.print))] name
  | _ => none

/-- The fields of a value that templates may not look at. -/
def hiddenFields : Value → List String
  | .time _ => ["wall", "ext", "loc"]
  | .location => ["name", "zone", "tx", "extend", "cacheStart", "cacheEnd", "cacheZone"]
  | _ => []

end Value

end NestedCss.Template
