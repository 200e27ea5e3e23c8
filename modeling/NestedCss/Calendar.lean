import NestedCss.Text
/-!
# Calendar

Points in time by the calendar and the clock, in coordinated universal time, and their written form
under a layout. A layout is an example: it shows how the second of January 2006, five seconds past
four minutes past three in the afternoon, would be written.
-/
namespace NestedCss

/-- A point in time. -/
structure DateTime where
  /-- The year. -/
  year : Nat
  /-- The month, counted from one. -/
  month : Nat
  /-- The day of the month, counted from one. -/
  day : Nat
  /-- The hour. -/
  hour : Nat := 0
  /-- The minute. -/
  minute : Nat := 0
  /-- The second. -/
  second : Nat := 0
  /-- The nanosecond. -/
  nanosecond : Nat := 0
  deriving DecidableEq, Repr

/-! ### Names -/

/-- The names of the months. -/
def monthNames : List String := ["January", "February", "March", "April", "May", "June", "July",
  "August", "September", "October", "November", "December"]

/-- The names of the days of the week, from Sunday on. -/
def dayNames : List String :=
  ["Sunday", "Monday", "Tuesday", "Wednesday", "Thursday", "Friday", "Saturday"]

/-- The name of a month, counted from one; a number that is none is shown as it is. -/
def monthName (month : Nat) : Text :=
  match month with
  | 0 => Text.ofString "%!Month(0)"
  | i + 1 =>
    match monthNames[i]? with
    | some name => Text.ofString name
    | none => Text.ofString "%!Month(" ++ Text.ofNat month ++ [Byte.closeParen]

/-- The name of a day of the week, where Sunday is zero; a number that is none is shown as it is. -/
def dayName (day : Nat) : Text :=
  match dayNames[day]? with
  | some name => Text.ofString name
  | none => Text.ofString "%!Weekday(" ++ Text.ofNat day ++ [Byte.closeParen]

namespace DateTime

/-! ### Counting days -/

/-- The number of days from the first of March of year zero to a date. Years are counted from March,
so that the leap day is the last of its year. -/
def dayNumber (t : DateTime) : Nat :=
  let y := if t.month ≤ 2 then t.year - 1 else t.year
  let m := (t.month + 9) % 12
  365 * y + y / 4 - y / 100 + y / 400 + (153 * m + 2) / 5 + (t.day - 1)

/-- The day number of the first of January 1970. -/
def epochDay : Nat := 719468

/-- The number of seconds since the start of 1970. -/
def unix (t : DateTime) : Int :=
  ((t.dayNumber : Int) - epochDay) * 86400 + t.hour * 3600 + t.minute * 60 + t.second

/-- The point in time a number of seconds after the start of 1970. -/
def ofUnix (seconds : Int) (nanosecond : Nat) : DateTime :=
  let z := (seconds / 86400 + epochDay).toNat
  let era := z / 146097
  let d := z % 146097
  let y := (d - d / 1460 + d / 36524 - d / 146096) / 365
  let n := d - (365 * y + y / 4 - y / 100)
  let m := (5 * n + 2) / 153
  let month := if m < 10 then m + 3 else m - 9
  let s := (seconds % 86400).toNat
  { year := y + era * 400 + if month ≤ 2 then 1 else 0, month, day := n - (153 * m + 2) / 5 + 1
    hour := s / 3600, minute := s / 60 % 60, second := s % 60, nanosecond }

/-- The day of the week, where Sunday is zero. -/
def weekday (t : DateTime) : Nat := (t.dayNumber + 3) % 7

/-- The day of the year, counted from one. -/
def yearDay (t : DateTime) : Nat :=
  t.dayNumber - dayNumber { t with month := 1, day := 1 } + 1

/-! ### Moving -/

/-- The number of nanoseconds since the start of 1970. -/
def nanoseconds (t : DateTime) : Int := t.unix * 1000000000 + t.nanosecond

/-- The point in time a number of nanoseconds after the start of 1970. -/
def ofNanoseconds (n : Int) : DateTime := ofUnix (n / 1000000000) (n % 1000000000).toNat

/-- The same time of day a number of years, months and days later. A day that the month does not
have is counted on into the next one. -/
def addDate (t : DateTime) (years months days : Int) : DateTime :=
  let m := (t.year + years) * 12 + (t.month - 1) + months
  let first := { t with year := (m / 12).toNat, month := (m % 12).toNat + 1, day := 1 }
  ofUnix (first.unix + (t.day - 1 + days) * 86400) t.nanosecond

/-- The number of seconds from the start of the year one to the start of 1970. -/
def secondsBefore1970 : Int := 62135596800

/-- The number of seconds since the start of the year one. -/
def seconds (t : DateTime) : Int := t.unix + secondsBefore1970

/-! ### Layouts -/

/-- The fields that a layout can show. -/
inductive Field where
  /-- The name of the month, whole or of three letters. -/
  | monthName (short : Bool)
  /-- The number of the month. -/
  | month (width : Nat)
  /-- The name of the day of the week, whole or of three letters. -/
  | dayName (short : Bool)
  /-- The day of the month, filled up with zeros. -/
  | day (width : Nat)
  /-- The day of the month, filled up with a space. -/
  | spacedDay
  /-- The day of the year, filled up with a byte. -/
  | yearDay (fill : UInt8)
  /-- The hour of the day. -/
  | hour
  /-- The hour of the half day. -/
  | hour12 (width : Nat)
  /-- The minute. -/
  | minute (width : Nat)
  /-- The second. -/
  | second (width : Nat)
  /-- The year, with four digits or two. -/
  | year (short : Bool)
  /-- Which half of the day it is. -/
  | halfDay (capital : Bool)
  /-- The name of the time zone. -/
  | zoneName
  /-- The distance to universal time, as it is written. -/
  | zone (text : String)
  /-- The fraction of the second, behind `mark`, with at most nine digits; `trim` leaves out zeros
  at the end. -/
  | fraction (mark : UInt8) (digits : Nat) (trim : Bool)

/-- The layouts of the distance to universal time, with how none is written, the longest first. -/
def zones : List (String × String) := [
  ("-070000", "+000000"), ("-07:00:00", "+00:00:00"), ("-0700", "+0000"), ("-07:00", "+00:00"),
  ("-07", "+00"), ("Z070000", "Z"), ("Z07:00:00", "Z"), ("Z0700", "Z"), ("Z07:00", "Z"),
  ("Z07", "Z")]

/-- The fields that are shown by fixed words, the longest first. -/
def words : List (String × Field) := [
  ("January", .monthName false), ("Monday", .dayName false), ("MST", .zoneName), ("01", .month 2),
  ("02", .day 2), ("03", .hour12 2), ("04", .minute 2), ("05", .second 2), ("06", .year true),
  ("002", .yearDay 0x30), ("15", .hour), ("1", .month 1), ("2006", .year false), ("2", .day 1),
  ("__2", .yearDay Byte.space), ("3", .hour12 1), ("4", .minute 1), ("5", .second 1),
  ("PM", .halfDay true), ("pm", .halfDay false)]

/-- The field of the fraction of a second at the front of a layout. -/
def fraction? : Text → Option (Field × Nat)
  | mark :: c :: r =>
    if (mark == Byte.dot || mark == Byte.comma) && (c == 0x30 || c == 0x39) then
      let more := (r.takeWhile (· == c)).length
      if ((r.drop more).head?.map Byte.isDigit).getD false then none
      else some (.fraction mark (1 + more) (c == 0x39), 2 + more)
    else none
  | _ => none

/-- The field at the front of a layout, and the length of its example. -/
def field? (t : Text) : Option (Field × Nat) :=
  let short (word : String) (f : Field) : Option (Field × Nat) :=
    if t.startsWith (Text.ofString word) && !(((t.drop 3).head?.map Byte.isLower).getD false) then
      some (f, 3)
    else none
  let word := words.find? fun w => t.startsWith (Text.ofString w.1)
  let zone := zones.find? fun z => t.startsWith (Text.ofString z.1)
  (word.map fun w => (w.2, w.1.length))
    <|> short "Jan" (.monthName true) <|> short "Mon" (.dayName true)
    <|> (zone.map fun z => (.zone z.2, z.1.length))
    <|> (if t.startsWith (Text.ofString "_2") && !t.startsWith (Text.ofString "_2006") then
          some (.spacedDay, 2) else none)
    <|> fraction? t

/-- A number with at least `width` digits, filled up with the byte `fill`. -/
def digits (width : Nat) (fill : UInt8) (n : Nat) : Text :=
  let t := Text.ofNat n
  List.replicate (width - t.length) fill ++ t

/-- A field of a point in time as it is written. -/
def writeField (t : DateTime) : Field → Text
  | .monthName short => if short then (monthName t.month).take 3 else monthName t.month
  | .month width => digits width 0x30 t.month
  | .dayName short => if short then (dayName t.weekday).take 3 else dayName t.weekday
  | .day width => digits width 0x30 t.day
  | .spacedDay => digits 2 Byte.space t.day
  | .yearDay fill => digits 3 fill t.yearDay
  | .hour => digits 2 0x30 t.hour
  | .hour12 width => digits width 0x30 (if t.hour % 12 == 0 then 12 else t.hour % 12)
  | .minute width => digits width 0x30 t.minute
  | .second width => digits width 0x30 t.second
  | .year short => if short then digits 2 0x30 (t.year % 100) else digits 4 0x30 t.year
  | .halfDay capital =>
    let half := if 12 ≤ t.hour then "pm" else "am"
    if capital then Text.ofString half.toUpper else Text.ofString half
  | .zoneName => Text.ofString "UTC"
  | .zone text => Text.ofString text
  | .fraction mark count trim =>
    let all := (digits 9 0x30 t.nanosecond).take count
    if !trim then mark :: all
    else
      let kept := Text.trimRightBy (· == 0x30) all
      if kept.isEmpty then [] else mark :: kept

/-- Writes a layout; `skip` bytes belong to the example of the field written last. -/
def formatFrom (t : DateTime) : Nat → Text → Text
  | _, [] => []
  | skip + 1, _ :: r => formatFrom t skip r
  | 0, c :: r =>
    match field? (c :: r) with
    | some (f, n) => t.writeField f ++ formatFrom t (n - 1) r
    | none => c :: formatFrom t 0 r

/-- A point in time written under a layout. -/
def format (t : DateTime) (layout : Text) : Text := formatFrom t 0 layout

/-- A point in time as it is written without a layout. -/
def toText (t : DateTime) : Text :=
  t.format (Text.ofString "2006-01-02 15:04:05.999999999 -0700 MST")

/-- A point in time as it is written between other systems. -/
def toStamp (t : DateTime) : Text := t.format (Text.ofString "2006-01-02T15:04:05.999999999Z07:00")

/-- A point in time as it is written in a program. -/
def toCode (t : DateTime) : Text :=
  let parts := [Text.ofNat t.year, Text.ofString "time." ++ monthName t.month, Text.ofNat t.day,
    Text.ofNat t.hour, Text.ofNat t.minute, Text.ofNat t.second, Text.ofNat t.nanosecond,
    Text.ofString "time.UTC"]
  Text.ofString "time.Date(" ++ Text.join (Text.ofString ", ") parts ++ [Byte.closeParen]

end DateTime

end NestedCss
