import NestedCss.Text
/-!
# Numerals

Whole numbers in base ten, or in the base that their start tells: `0x` for sixteen, `0b` for two,
and `0o` or a bare `0` for eight. Underscores may stand between the digits of longer numerals.
-/
namespace NestedCss.Numeral

/-! ### Digits -/

/-- The number that digits write in a base. -/
def digits? (base : Nat) (t : Text) : Option Nat :=
  if t.isEmpty then none
  else t.foldlM (fun n c => do
    let d ← Byte.hexValue? c
    if d < base then some (base * n + d) else none) 0

/-- The base that the start of a numeral tells, and the digits. -/
def baseAndDigits (t : Text) : Nat × Text :=
  match t with
  | 0x30 :: c :: rest =>
    let c := Byte.toLower c
    if c == 0x78 then (16, rest)
    else if c == 0x6F then (8, rest)
    else if c == 0x62 then (2, rest)
    else (8, c :: rest)
  | _ => (10, t)

/-- The number that a text without a sign writes, in the base that its start tells. -/
def natural? (t : Text) : Option Nat :=
  let (base, digits) := baseAndDigits t
  digits? base digits

/-! ### Signs -/

/-- Whether a text starts with a sign. -/
def hasSign (t : Text) : Bool := t.head? == some Byte.hyphen || t.head? == some Byte.plus

/-- A text without the sign at its start. -/
def unsigned (t : Text) : Text := if hasSign t then t.drop 1 else t

/-- Whether a text has a minus sign at its start. -/
def isNegative (t : Text) : Bool := t.head? == some Byte.hyphen

/-- The number that a text writes, with or without a sign. -/
def integer? (t : Text) : Option Int := do
  let n ← natural? (unsigned t)
  return if isNegative t then -n else n

/-! ### Underscores -/

/-- What stands before a byte of a numeral. -/
inductive Before where
  /-- Nothing. -/
  | start
  /-- A digit, or the mark of a base. -/
  | digit
  /-- An underscore. -/
  | underscore
  /-- Anything else. -/
  | other
  deriving DecidableEq

/-- Whether every underscore of a text has a digit on both sides, where `b` stands before the text;
`hex` tells that letters are digits too. -/
def separatedFrom (hex : Bool) (b : Before) : Text → Bool
  | [] => b != .underscore
  | c :: rest =>
    if Byte.isDigit c || (hex && (Byte.hexValue? c).isSome) then separatedFrom hex .digit rest
    else if c == Byte.underscore then b == .digit && separatedFrom hex .underscore rest
    else b != .underscore && separatedFrom hex .other rest

/-- Whether every underscore of a numeral without a sign stands between digits; the mark of the base
counts as one. -/
def isSeparated (t : Text) : Bool :=
  match t with
  | 0x30 :: c :: rest =>
    let mark := Byte.toLower c
    if mark == 0x78 || mark == 0x6F || mark == 0x62 then separatedFrom (mark == 0x78) .digit rest
    else separatedFrom false .start t
  | _ => separatedFrom false .start t

/-- The number that a text writes, with or without a sign, possibly with underscores. -/
def separated? (t : Text) : Option Int :=
  if isSeparated (unsigned t) then integer? (t.filter (· != Byte.underscore)) else none

end NestedCss.Numeral
