import NestedCss.Binary64.Printer
import NestedCss.Calendar.Duration
import NestedCss.Text.Quoted
/-!
# Values of templates

The values that the actions of a template work on, and the names of their types.
-/
namespace NestedCss.Template

/-- The kinds of whole numbers. -/
inductive IntKind where
  /-- A plain number. -/
  | int
  /-- A number of seconds or parts of seconds. -/
  | long
  /-- A byte of a string. -/
  | byte
  /-- A month. -/
  | month
  /-- A day of the week. -/
  | weekday
  /-- A length of time in nanoseconds. -/
  | duration
  deriving DecidableEq, Repr

/-- A value. -/
inductive Value where
  /-- No value. -/
  | nil
  /-- A truth value. -/
  | bool (b : Bool)
  /-- A whole number. -/
  | int (kind : IntKind) (n : Int)
  /-- A number with a fraction. -/
  | float (x : Binary64)
  /-- A complex number. -/
  | complex (re im : Binary64)
  /-- A string. -/
  | str (t : Text)
  /-- A list of strings; `beyond` are those that a longer part of the same list would show. -/
  | strings (ts beyond : List Text)
  /-- A list of bytes; `beyond` are those that a longer part of the same list would show. -/
  | bytes (t beyond : Text)
  /-- A point in time. -/
  | time (t : DateTime)
  /-- Coordinated universal time. -/
  | location
  /-- A record: the name of its type, and its fields. -/
  | record (type : Text) (fields : List (Text × Value))

/-- A plain number. -/
def Value.num (n : Int) : Value := .int .int n

/-- The name of a kind of whole numbers. -/
def IntKind.name : IntKind → String
  | .int => "int"
  | .long => "int64"
  | .byte => "uint8"
  | .month => "time.Month"
  | .weekday => "time.Weekday"
  | .duration => "time.Duration"

/-- The written form of the kinds of whole numbers that have one of their own. -/
def IntKind.text? (k : IntKind) (n : Int) : Option Text :=
  match k with
  | .month => some (monthName n.toNat)
  | .weekday => some (dayName n.toNat)
  | .duration => some (Duration.toText ⟨n⟩)
  | _ => none

namespace Value

/-- The name of the type of a value. -/
def typeName : Value → Text
  | nil => Text.ofString "<nil>"
  | bool _ => Text.ofString "bool"
  | int k _ => Text.ofString k.name
  | float _ => Text.ofString "float64"
  | complex _ _ => Text.ofString "complex128"
  | str _ => Text.ofString "string"
  | strings _ _ => Text.ofString "[]string"
  | bytes _ _ => Text.ofString "[]uint8"
  | time _ => Text.ofString "time.Time"
  | location => Text.ofString "*time.Location"
  | record type _ => type

/-- What kind of thing a value is, without the name of its type. -/
def kindName : Value → Text
  | int .month _ | int .weekday _ => Text.ofString "int"
  | int .duration _ => Text.ofString "int64"
  | strings _ _ | bytes _ _ => Text.ofString "slice"
  | time _ | record _ _ => Text.ofString "struct"
  | location => Text.ofString "ptr"
  | v => v.typeName

/-- Whether a value counts as true: it is there, and it is not zero or empty. -/
def isTrue : Value → Bool
  | nil => false
  | bool b => b
  | int _ n => n != 0
  | float x => !x.isZero
  | complex x y => !x.isZero || !y.isZero
  | str t => !t.isEmpty
  | strings ts _ => !ts.isEmpty
  | bytes t _ => !t.isEmpty
  | time _ | location | record _ _ => true

/-- A string. -/
def isStr : Value → Bool
  | str _ => true
  | _ => false

end Value

end NestedCss.Template
