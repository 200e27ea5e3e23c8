import NestedCss.Text.Numeral
import NestedCss.Text.Quoted
import NestedCss.Text.Space
/-!
# Command lines

A command line is made of flags and words, in any order. A flag is known by several names; behind a
flag that is not a truth value stands its value, either after an equals sign or as the next
argument.
-/
namespace NestedCss

/-- What a flag is set to. -/
inductive FlagKind where
  /-- A truth value, true where none is given. -/
  | truth
  /-- A text. -/
  | text
  /-- Texts, with commas between them or in several flags. -/
  | texts
  /-- A whole number. -/
  | whole
  deriving DecidableEq

/-- A flag. -/
structure Flag where
  /-- The name it is asked for by. -/
  name : String
  /-- What it is set to. -/
  kind : FlagKind
  /-- Its other names. -/
  aliases : List String := []

/-- The value of a flag. -/
inductive FlagValue where
  /-- A truth value. -/
  | truth (b : Bool)
  /-- A text. -/
  | text (t : Text)
  /-- Texts. -/
  | texts (ts : List Text)
  /-- A whole number. -/
  | whole (n : Int)
  deriving DecidableEq

/-- Why a value does not fit a flag. -/
inductive ValueFault where
  /-- It is not a truth value. -/
  | notTruth
  /-- It is not a number. -/
  | notNumber
  /-- It takes more than 64 bits. -/
  | outOfRange
  deriving DecidableEq

/-- Why a command line cannot be read. -/
inductive UsageError where
  /-- A flag is not known. -/
  | unknownFlag (name : Text)
  /-- A flag has no value; the argument is told as it is written. -/
  | missingValue (written : Text)
  /-- A value does not fit its flag. -/
  | badValue (value name : Text) (fault : ValueFault)

/-- The wording of a fault of a value. -/
def ValueFault.message (value : Text) : ValueFault → Text
  | .notTruth => Text.ofString "parse error"
  | .notNumber =>
    Text.ofString "strconv.ParseInt: parsing " ++ value.quote ++ Text.ofString ": invalid syntax"
  | .outOfRange =>
    Text.ofString "strconv.ParseInt: parsing " ++ value.quote
      ++ Text.ofString ": value out of range"

/-- The wording of an error. -/
def UsageError.message : UsageError → Text
  | .unknownFlag name => Text.ofString "flag provided but not defined: -" ++ name
  | .missingValue written => Text.ofString "flag needs an argument: " ++ written
  | .badValue value name fault =>
    Text.ofString "invalid value " ++ value.quote ++ Text.ofString " for flag -" ++ name
      ++ Text.ofString ": " ++ fault.message value

/-! ### Values -/

/-- The texts that stand for truth values. -/
def truthNames : List (String × Bool) := [
  ("1", true), ("t", true), ("T", true), ("true", true), ("TRUE", true), ("True", true),
  ("0", false), ("f", false), ("F", false), ("false", false), ("FALSE", false), ("False", false)]

/-- Reads a truth value. -/
def readTruth (t : Text) : Except ValueFault Bool :=
  match truthNames.find? fun (n, _) => Text.ofString n == t with
  | some (_, b) => .ok b
  | none => .error .notTruth

/-- Reads a whole number in 64 bits. -/
def readWhole (t : Text) : Except ValueFault Int :=
  if !Numeral.isSeparated (Numeral.unsigned t) then .error .notNumber
  else
    match Numeral.integer? (t.filter (· != Byte.underscore)) with
    | none => .error .notNumber
    | some n => if -Int.pow 2 63 ≤ n && n < Int.pow 2 63 then .ok n else .error .outOfRange

/-- Reads the value of a flag. -/
def FlagKind.read (k : FlagKind) (t : Text) : Except ValueFault FlagValue :=
  match k with
  | .truth => (readTruth t).map .truth
  | .text => .ok (.text t)
  | .texts => .ok (.texts ((Text.splitOn Byte.comma t).map Text.trimSpace))
  | .whole => (readWhole t).map .whole

/-- The value of a flag that is set again: texts are gathered, others replaced. -/
def FlagValue.renew : FlagValue → FlagValue → FlagValue
  | .texts old, .texts new => .texts (old ++ new)
  | _, new => new

/-! ### Arguments -/

/-- The arguments of a command. -/
structure Arguments where
  /-- The values of flags that have been set. -/
  values : List (String × FlagValue) := []
  /-- The other arguments. -/
  words : List Text := []

namespace Arguments

/-- Whether a flag has been set. -/
def isSet (a : Arguments) (name : String) : Bool := (a.values.lookup name).isSome

/-- The truth value of a flag. -/
def truth? (a : Arguments) (name : String) : Option Bool :=
  match a.values.lookup name with
  | some (.truth b) => some b
  | _ => none

/-- The text of a flag. -/
def text? (a : Arguments) (name : String) : Option Text :=
  match a.values.lookup name with
  | some (.text t) => some t
  | _ => none

/-- The texts of a flag. -/
def texts? (a : Arguments) (name : String) : Option (List Text) :=
  match a.values.lookup name with
  | some (.texts ts) => some ts
  | _ => none

/-- The number of a flag. -/
def whole? (a : Arguments) (name : String) : Option Int :=
  match a.values.lookup name with
  | some (.whole n) => some n
  | _ => none

/-- Sets the value of a flag. -/
def set (a : Arguments) (name : String) (v : FlagValue) : Arguments :=
  let v := match a.values.lookup name with
    | some old => old.renew v
    | none => v
  { a with values := (name, v) :: a.values.filter fun e => e.1 != name }

/-- Adds words. -/
def addWords (a : Arguments) (ws : List Text) : Arguments := { a with words := a.words ++ ws }

/-- Sets a flag, known by one of its names, from a text. -/
def setText (a : Arguments) (f : Flag) (name value : Text) : Except UsageError Arguments :=
  match f.kind.read value with
  | .ok v => .ok (a.set f.name v)
  | .error fault => .error (.badValue value name fault)

end Arguments

/-! ### Reading -/

/-- What an argument is. -/
inductive ArgumentShape where
  /-- Nothing. -/
  | empty
  /-- The mark behind which there are words only. -/
  | wordsOnly
  /-- A dash alone. -/
  | dash
  /-- Something behind a dash that is no name. -/
  | noFlag
  /-- A word. -/
  | word
  /-- A flag with a name, and the value after an equals sign. -/
  | flag (name : Text) (value : Option Text)

/-- Whether a byte, as a code point, is a letter. -/
def isLatinLetter (c : UInt8) : Bool :=
  Byte.isLetter c || c == 0xAA || c == 0xB5 || c == 0xBA || (0xC0 ≤ c && c != 0xD7 && c != 0xF7)

/-- A flag without its dashes. -/
def flagShape (t : Text) : ArgumentShape :=
  let name := t.takeWhile (· != Byte.equals)
  .flag name (if name.length < t.length then some (t.drop (name.length + 1)) else none)

/-- What an argument without blanks around it is. -/
def ArgumentShape.of : Text → ArgumentShape
  | [] => .empty
  | [Byte.hyphen] => .dash
  | [Byte.hyphen, Byte.hyphen] => .wordsOnly
  | Byte.hyphen :: Byte.hyphen :: rest => flagShape rest
  | Byte.hyphen :: c :: rest => if isLatinLetter c then flagShape (c :: rest) else .noFlag
  | _ => .word

/-- Whether a flag has a name. -/
def Flag.hasName (f : Flag) (name : Text) : Bool :=
  (f.name :: f.aliases).any fun n => Text.ofString n == name

/-- The value that a flag has without a further argument, where `value` stands after an equals
sign. -/
def Flag.ownValue? (f : Flag) (value : Option Text) : Option Text :=
  match f.kind, value with
  | .truth, none | .truth, some [] => some (Text.ofString "true")
  | _, v => v

/-- Reads arguments. The name of a command ends them, and goes to the words with all that
follows. -/
def Arguments.read (flags : List Flag) (isCommand : Text → Bool) (done : Arguments) :
    List Text → Except UsageError Arguments
  | [] => .ok done
  | a :: rest =>
    let t := a.trimSpace
    match ArgumentShape.of t with
    | .empty => .ok done
    | .wordsOnly => .ok (done.addWords rest)
    | .dash => .ok (done.addWords [t])
    | .noFlag => .ok (done.addWords (a :: rest))
    | .word =>
      if isCommand t then .ok (done.addWords (a :: rest))
      else read flags isCommand (done.addWords [t]) rest
    | .flag name value =>
      match flags.find? (·.hasName name) with
      | none => .error (.unknownFlag name)
      | some f =>
        match f.ownValue? value with
        | some v =>
          match done.setText f name v with
          | .ok done => read flags isCommand done rest
          | .error e => .error e
        | none =>
          match rest with
          | [] => .error (.missingValue t)
          | v :: more =>
            match done.setText f name v with
            | .ok done => read flags isCommand done more
            | .error e => .error e

end NestedCss
