import NestedCss.Config.Reader
/-!
# Valid configurations

The rules that the values of a configuration have to keep, and loading a configuration file, which
ends with checking them.
-/
namespace NestedCss

/-- A field that breaks a rule. -/
structure Violation where
  /-- The section. -/
  owner : Text
  /-- The field. -/
  name : Text
  /-- The rule. -/
  rule : String

/-- The wording of a violation. -/
def Violation.message (v : Violation) : Text :=
  Text.ofString "Key: '" ++ v.owner ++ Byte.dot :: v.name
    ++ Text.ofString "' Error:Field validation for '" ++ v.name
    ++ Text.ofString "' failed on the '" ++ Text.ofString v.rule ++ Text.ofString "' tag"

/-- A setting that cannot be used. -/
inductive Conflict where
  /-- An unknown option. -/
  | option (e : OptionError)
  /-- An expression that cannot be read. -/
  | exclusion (e : ExclusionError)
  /-- A converter of no property. -/
  | converter (index : Nat)
  /-- A replacement of no at-rule. -/
  | replacement

/-- The wording of a conflict. -/
def Conflict.message : Conflict → Text
  | .option e => e.message
  | .exclusion e => e.message
  | .converter i =>
    Text.ofString "converter " ++ Text.ofNat i ++ Text.ofString ": match_property is required"
  | .replacement => Text.ofString "at-rule rewrite with empty at-rule name"

/-- Why a configuration is refused. -/
inductive ConfigProblem where
  /-- The document cannot be read. -/
  | decoding (e : DocumentError)
  /-- There is no directory for a file. -/
  | directory (e : FileError)
  /-- Fields break rules. -/
  | violations (vs : List Violation)
  /-- Settings cannot be used. -/
  | conflicts (cs : List Conflict)

/-- The wording of a problem. -/
def ConfigProblem.message : ConfigProblem → Text
  | .decoding e => Text.ofString "failed to decode configuration data: " ++ e.message
  | .directory e => e.message
  | .violations vs => Text.join [Byte.lineFeed] (vs.map Violation.message)
  | .conflicts cs => Text.join (Text.ofString "; ") (cs.map Conflict.message)

/-- Why a configuration cannot be loaded. -/
inductive ConfigError where
  /-- The file cannot be read. -/
  | unreadable (e : FileError)
  /-- The file is refused. -/
  | file (path : Text) (p : ConfigProblem)
  /-- The defaults are refused. -/
  | defaults (p : ConfigProblem)

/-- The wording of the error. -/
def ConfigError.message : ConfigError → Text
  | .unreadable e => Text.ofString "failed to read config file: " ++ e.message
  | .file path p =>
    Text.ofString "failed to process configuration file " ++ path ++ Text.ofString ": " ++ p.message
  | .defaults p => Text.ofString "failed to process configuration template: " ++ p.message

namespace Config

/-! ### Rules -/

/-- The first rule of a field that is broken. -/
def broken (owner name : Text) (rules : List (String × Bool)) : List Violation :=
  match rules.find? fun (_, kept) => !kept with
  | some (rule, _) => [⟨owner, name, rule⟩]
  | none => []

/-- The name of an item of a list. -/
def itemName (name : String) (index : Nat) : Text :=
  Text.ofString name ++ Byte.openBracket :: Text.ofNat index ++ [Byte.closeBracket]

/-- The items of a list that are empty. -/
def emptyItems (owner : Text) (name : String) (items : List Text) : List Violation :=
  items.zipIdx.flatMap fun (t, i) => broken owner (itemName name i) [("required", !t.isEmpty)]

/-- Whether a text names a file, which need not be there. -/
def isFilePath (t : FileTree) (p : Text) : Bool :=
  !t.isDirectory p && (t.isFile p || !p.trimSpace.isEmpty && !p.endsWith [Byte.slash])

/-- Whether a text is one of some words. -/
def isOne (words : List String) (t : Text) : Bool := (words.map Text.ofString).contains t

/-- What is wrong with a converter. -/
def converterViolations (index : Nat) (c : Converter) : List Violation :=
  let owner := Text.ofString "Config.Compiler." ++ itemName "Converters" index
  broken owner (Text.ofString "MatchProperty") [("required", !c.matchProperty.isEmpty)]
    ++ broken owner (Text.ofString "ArgumentCount") [("gte", 0 ≤ c.argumentCount)]

/-- What is wrong with where sources come from. -/
def inputViolations (c : InputConfig) : List Violation :=
  let owner := Text.ofString "Config.Input"
  emptyItems owner "Files" c.files
    ++ emptyItems owner "Directories" c.directories
    ++ broken owner (Text.ofString "Extensions") [("min", !c.extensions.isEmpty)]
    ++ emptyItems owner "Extensions" c.extensions
    ++ broken owner (Text.ofString "Jobs") [("min", 1 ≤ c.jobs), ("max", c.jobs ≤ 64)]

/-- What is wrong with what is logged at one place. -/
def loggerViolations (t : FileTree) (name : String) (c : LoggerConfig) : List Violation :=
  let owner := Text.ofString "Config.Logging." ++ Text.ofString name
  broken owner (Text.ofString "Level")
      [("required", !c.level.isEmpty), ("oneof", isOne ["none", "debug", "normal"] c.level)]
    ++ broken owner (Text.ofString "Destination")
      [("filepath", c.destination.isEmpty || isFilePath t c.destination)]
    ++ broken owner (Text.ofString "Mode")
      [("oneof", c.mode.isEmpty || isOne ["append", "overwrite"] c.mode)]

/-- What is wrong with a configuration. -/
def violations (t : FileTree) (c : Config) : List Violation :=
  broken (Text.ofString "Config") (Text.ofString "Version") [("eq", c.version == 1)]
    ++ c.compiler.converters.zipIdx.flatMap (fun (v, i) => converterViolations i v)
    ++ inputViolations c.input
    ++ loggerViolations t "FileLogger" c.logging.file
    ++ loggerViolations t "ConsoleLogger" c.logging.console
    ++ broken (Text.ofString "Config.Reporting") (Text.ofString "Destination")
      [("required", !c.reporting.destination.isEmpty),
        ("filepath", isFilePath t c.reporting.destination)]

/-- The settings of a configuration that cannot be used. -/
def conflicts (c : Config) : List Conflict :=
  (match c.compiler.options with
    | .error e => [.option e]
    | .ok _ => [])
  ++ (match Exclusion.parseAll c.input.exclude with
    | .error e => [.exclusion e]
    | .ok _ => [])
  ++ c.compiler.converters.zipIdx.filterMap (fun (v, i) =>
    if v.matchProperty.trimSpace.isEmpty then some (.converter i) else none)
  ++ c.compiler.headerReplacements.filterMap (fun (k, _) =>
    if (k.trimSpace.dropWhile (· == Byte.atSign)).isEmpty then some .replacement else none)

/-! ### Loading -/

/-- The cleaned path of a file, and the tree with a directory for it. -/
def prepareFile (t : FileTree) (p : Text) : Except ConfigProblem (Text × FileTree) :=
  if p.isEmpty then .ok (p, t)
  else
    let p := Path.clean p
    match t.makeDirectories (Path.directory p) with
    | .ok t => .ok (p, t)
    | .error e => .error (.directory e)

/-- A configuration with cleaned paths, and the tree with directories for its files. -/
def prepare (t : FileTree) (c : Config) : Except ConfigProblem (Config × FileTree) := do
  let (file, t) ← prepareFile t c.logging.file.destination
  let (console, t) ← prepareFile t c.logging.console.destination
  let (report, t) ← prepareFile t c.reporting.destination
  return ({ c with
    logging := {
      file := { c.logging.file with destination := file }
      console := { c.logging.console with destination := console } }
    reporting := { destination := report } }, t)

/-- Makes a configuration ready for use, unless it breaks a rule. -/
def process (t : FileTree) (c : Config) : Except ConfigProblem (Config × FileTree) := do
  let (c, t) ← prepare t c
  match violations t c, conflicts c with
  | [], [] => return (c, t)
  | [], cs => throw (.conflicts cs)
  | vs, _ => throw (.violations vs)

/-- Reads a configuration on top of the defaults. -/
def parse (t : FileTree) (data : Text) : Except ConfigProblem (Config × FileTree) :=
  match decode {} data with
  | .ok c => process t c
  | .error e => .error (.decoding e)

/-- Loads a configuration file; without one the defaults are used. -/
def load (t : FileTree) : Option Text → Except ConfigError (Config × FileTree)
  | none => (process t {}).mapError .defaults
  | some path =>
    match t.read path with
    | .ok data => (parse t data).mapError (.file path)
    | .error e => .error (.unreadable e)

end Config

end NestedCss
