import NestedCss.Calendar
import NestedCss.Text.Quoted
/-!
# Log entries

What the program tells about its run: messages with a level, the name of the part they come from,
and named values.
-/
namespace NestedCss

/-- How serious a message is. -/
inductive LogLevel where
  /-- Something went as planned. -/
  | info
  /-- Something is unusual. -/
  | warn
  /-- Something failed. -/
  | error
  deriving DecidableEq, Repr

/-- The name of a level. -/
def LogLevel.name : LogLevel → Text
  | info => Text.ofString "INFO"
  | warn => Text.ofString "WARN"
  | error => Text.ofString "ERROR"

/-- A value in a log entry. -/
inductive LogValue where
  /-- A text. -/
  | text (t : Text)
  /-- A number. -/
  | number (n : Int)
  /-- A list of texts. -/
  | texts (ts : List Text)
  deriving DecidableEq, Repr

/-- A log entry. -/
structure LogEntry where
  /-- The level. -/
  level : LogLevel
  /-- The part of the program. -/
  logger : Text
  /-- The message. -/
  message : Text
  /-- The values, with their names. -/
  fields : List (Text × LogValue) := []
  deriving DecidableEq, Repr

namespace LogEntry

/-- The entry of a part of the program with a text, where names are given as literals. -/
def make (level : LogLevel) (logger message : String) (fields : List (String × LogValue)) :
    LogEntry :=
  ⟨level, Text.ofString logger, Text.ofString message,
    fields.map fun (name, v) => (Text.ofString name, v)⟩

/-- An entry that tells of success. -/
def info : String → String → List (String × LogValue) → LogEntry := make .info

/-- An entry that tells of something unusual. -/
def warn : String → String → List (String × LogValue) → LogEntry := make .warn

/-- An entry that tells of a failure. -/
def error : String → String → List (String × LogValue) → LogEntry := make .error

/-- A value as it is written. -/
def writeValue : LogValue → Text
  | .text t => t.quote
  | .number n => Text.ofInt n
  | .texts ts =>
    Byte.openBracket :: Text.join (Text.ofString ", ") (ts.map Text.quote) ++ [Byte.closeBracket]

/-- The values of an entry as they are written. -/
def writeFields (fields : List (Text × LogValue)) : Text :=
  if fields.isEmpty then []
  else
    let written := fields.map fun (name, v) => name.quote ++ Text.ofString ": " ++ writeValue v
    Byte.tab :: Byte.openBrace :: Text.join (Text.ofString ", ") written ++ [Byte.closeBrace]

/-- The lines that an entry is written as. -/
def render (e : LogEntry) (time : DateTime) : Text :=
  time.format (Text.ofString "2006-01-02T15:04:05.000Z0700") ++ Byte.tab :: e.level.name
    ++ Byte.tab :: e.logger ++ Byte.tab :: e.message ++ writeFields e.fields ++ [Byte.lineFeed]

end LogEntry

end NestedCss
