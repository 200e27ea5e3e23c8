import NestedCss.Binary64
import NestedCss.Calendar
/-!
# The meaning of plain scalars

A scalar that is written plainly stands for a number, a truth value, a point in time or nothing at
all, if it is spelled as one, and for a text otherwise.
-/
namespace NestedCss.Yaml

/-- What a scalar stands for. -/
inductive Meaning where
  /-- Nothing. -/
  | null
  /-- A truth value. -/
  | truth (b : Bool)
  /-- A whole number. -/
  | whole (n : Int)
  /-- A number of limited precision, rounded towards zero if it is small enough for that. -/
  | fraction (rounded : Option Int)
  /-- A point in time. -/
  | moment
  /-- A text. -/
  | text
  deriving DecidableEq, Repr

namespace Meaning

/-- The name of the kind of value. -/
def tag : Meaning → Text
  | .null => Text.ofString "!!null"
  | .truth _ => Text.ofString "!!bool"
  | .whole _ => Text.ofString "!!int"
  | .fraction _ => Text.ofString "!!float"
  | .moment => Text.ofString "!!timestamp"
  | .text => Text.ofString "!!str"

/-- The least number in 64 bits. -/
def leastInt : Int := -Int.pow 2 63

/-- The words with a meaning of their own. -/
def words : List (String × Meaning) := [
  ("true", .truth true), ("True", .truth true), ("TRUE", .truth true),
  ("false", .truth false), ("False", .truth false), ("FALSE", .truth false),
  ("", .null), ("~", .null), ("null", .null), ("Null", .null), ("NULL", .null),
  (".nan", .fraction none), (".NaN", .fraction none), (".NAN", .fraction none),
  (".inf", .fraction none), (".Inf", .fraction none), (".INF", .fraction none),
  ("+.inf", .fraction none), ("+.Inf", .fraction none), ("+.INF", .fraction none),
  ("-.inf", .fraction (some leastInt)), ("-.Inf", .fraction (some leastInt)),
  ("-.INF", .fraction (some leastInt))]

/-! ### Whole numbers -/

/-- The whole number that a text writes. It has to fit into 64 bits, with a sign or without. -/
def whole? (t : Text) : Option Int := do
  let n ← Numeral.integer? t
  let bound := if Numeral.hasSign t then Int.pow 2 63 else Int.pow 2 64
  if leastInt ≤ n && n < bound then some n else none

/-! ### Numbers with a fraction -/

/-- The number that a text writes with decimal digits, rounded towards zero if it is at most a
64-bit number. Numbers that are too large have no value. -/
def fraction? (t : Text) : Option (Option Int) :=
  if Binary64.isHexadecimal (Numeral.unsigned t) then none
  else match Binary64.parse t with
    | .ok x =>
      let n := x.truncate
      some (if n ≤ Int.pow 2 63 then some (max n leastInt) else none)
    | .error _ => none

/-! ### Points in time -/

/-- A number of one or two digits at the front of a text, and what follows it. -/
def shortNumber? (t : Text) : Option (Nat × Text) :=
  let ds := (t.take 2).takeWhile Byte.isDigit
  (Text.toNat? ds).map fun n => (n, t.drop ds.length)

/-- What follows a byte at the front of a text. -/
def after? (c : UInt8) : Text → Option Text
  | d :: rest => if c == d then some rest else none
  | [] => none

/-- How many days a month has. -/
def monthLength (year month : Nat) : Nat :=
  if month == 2 then
    if year % 4 == 0 && (year % 100 != 0 || year % 400 == 0) then 29 else 28
  else if [4, 6, 9, 11].contains month then 30
  else 31

/-- What follows a date at the front of a text. -/
def afterDate? (t : Text) : Option Text := do
  let year ← Text.toNat? (t.take 4)
  let (month, t) ← shortNumber? (← after? Byte.hyphen (t.drop 4))
  let (day, t) ← shortNumber? (← after? Byte.hyphen t)
  if 1 ≤ month && month ≤ 12 && 1 ≤ day && day ≤ monthLength year month then some t else none

/-- What follows a time of day at the front of a text. -/
def afterTime? (t : Text) : Option Text := do
  let (hour, t) ← shortNumber? t
  let (minute, t) ← shortNumber? (← after? Byte.colon t)
  let (second, t) ← shortNumber? (← after? Byte.colon t)
  if 23 < hour || 59 < minute || 59 < second then none
  else
    match t with
    | c :: d :: _ =>
      if (c == Byte.dot || c == Byte.comma) && Byte.isDigit d then
        some ((t.drop 1).dropWhile Byte.isDigit)
      else some t
    | _ => some t

/-- Whether a text is a time zone. -/
def isZone (t : Text) : Bool :=
  match t with
  | [0x5A] => true
  | [s, a, b, Byte.colon, c, d] =>
    (s == Byte.plus || s == Byte.hyphen) && [a, b, c, d].all Byte.isDigit
      && (Text.toNat? [a, b]).any (· ≤ 24) && (Text.toNat? [c, d]).any (· < 60)
  | _ => false

/-- Whether a text is a date, possibly with a time of day. -/
def isMoment (t : Text) : Bool :=
  (t.takeWhile Byte.isDigit).length == 4 && t[4]? == some Byte.hyphen
    && match afterDate? t with
      | some [] => true
      | some (Byte.space :: r) => afterTime? r == some []
      | some (c :: r) => (c == 0x54 || c == 0x74) && (afterTime? r).any isZone
      | none => false

/-! ### Scalars -/

/-- Whether a byte can start a number. -/
def startsNumber (t : Text) : Bool := Numeral.hasSign t || t.head?.any Byte.isDigit

/-- What a plain scalar stands for. -/
def ofPlain (t : Text) : Meaning :=
  match (words.map fun (w, m) => (Text.ofString w, m)).lookup t with
  | some m => m
  | none =>
    if startsNumber t then
      let digits := t.filter (· != Byte.underscore)
      if isMoment t then .moment
      else
        match whole? digits, fraction? digits with
        | some n, _ => .whole n
        | none, some n => .fraction n
        | none, none => .text
    else if t.head? == some Byte.dot && !t.contains Byte.underscore then
      match fraction? t with
      | some n => .fraction n
      | none => .text
    else .text

end Meaning

end NestedCss.Yaml
