import NestedCss.Exclusion
import NestedCss.FileTree
import NestedCss.Options
import NestedCss.Origin
/-!
# Configuration

What a user can set in a configuration file: how sheets are compiled, where sources come from, where
the result goes, and what is logged and reported. The values that fields have here are the defaults.
-/
namespace NestedCss

/-- How sheets are compiled. -/
structure CompilerConfig where
  /-- Whether the output is indented. -/
  pretty : Bool := true
  /-- Whether blanks behind an ampersand are kept. -/
  keepNestingSpace : Bool := false
  /-- Whether bare custom properties in values are wrapped. -/
  useVarShortcut : Bool := true
  /-- The names of the merge passes. -/
  merge : Text := Text.ofString "none"
  /-- The name of the place of a merged rule. -/
  mergeOrder : Text := Text.ofString "preserve_last"
  /-- Whether the result is checked. -/
  verify : Bool := false
  /-- The converters of properties. -/
  converters : List Converter := []
  /-- At-rule headers and what replaces them, in order of the headers. -/
  headerReplacements : List (Text × Text) := []

/-- Where sources come from. -/
structure InputConfig where
  /-- The files. -/
  files : List Text := []
  /-- The directories. -/
  directories : List Text := []
  /-- The extensions of sources in directories and archives. -/
  extensions : List Text := [Text.ofString ".xcss", Text.ofString ".ncss"]
  /-- The expressions for what is left out. -/
  exclude : List Text := []
  /-- How many sources are compiled at the same time. -/
  jobs : Int := 4

/-- Where the result goes. -/
structure OutputConfig where
  /-- The path of the result; an empty one stands for standard output. -/
  file : Text := []
  /-- The comment in front of each compiled source. -/
  filenameTag : FilenameTag := .none
  /-- The template of the comment at the start of the result. -/
  banner : Text := []

/-- What is logged at one place. -/
structure LoggerConfig where
  /-- The name of the least level that is logged. -/
  level : Text
  /-- The path of the log. -/
  destination : Text := []
  /-- Whether an old log is kept. -/
  mode : Text := []

/-- What is logged. -/
structure LoggingConfig where
  /-- In a file. -/
  file : LoggerConfig :=
    ⟨Text.ofString "none", Text.ofString "xcss.log", Text.ofString "overwrite"⟩
  /-- On the console. -/
  console : LoggerConfig := { level := Text.ofString "normal" }

/-- What is reported. -/
structure ReporterConfig where
  /-- The path of the report. -/
  destination : Text := Text.ofString "xcss-report.zip"

/-- A configuration. -/
structure Config where
  /-- The version of the format. -/
  version : Int := 1
  /-- How sheets are compiled. -/
  compiler : CompilerConfig := {}
  /-- Where sources come from. -/
  input : InputConfig := {}
  /-- Where the result goes. -/
  output : OutputConfig := {}
  /-- What is logged. -/
  logging : LoggingConfig := {}
  /-- What is reported. -/
  reporting : ReporterConfig := {}

/-- The options that a configuration sets. -/
def CompilerConfig.options (c : CompilerConfig) : Except OptionError Options := do
  let merge ← MergeMode.parse c.merge
  let mergeOrder ← MergeOrder.parse c.mergeOrder
  return {
    pretty := c.pretty
    keepNestingSpace := c.keepNestingSpace
    useVarShortcut := c.useVarShortcut
    merge, mergeOrder
    converters := c.converters
    headerReplacements := c.headerReplacements }

namespace Config

/-- The names under which a configuration file is looked for. -/
def implicitNames : List String := ["xcss.yaml", "xcss.yml", "cssconfig.yaml", "cssconfig.json"]

/-- The first configuration file in a directory. -/
def locate? (t : FileTree) (directory : Text) : Option Text :=
  (implicitNames.map fun n => Path.join directory (Text.ofString n)).find? t.isFile

end Config

end NestedCss
