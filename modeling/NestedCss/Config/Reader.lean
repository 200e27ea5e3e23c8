import NestedCss.Config.Filling
/-!
# Reading configurations

The fields of a configuration file, by section. `Config.decode` puts a file on top of a
configuration.
-/
namespace NestedCss.Config

open Filling
/-- A converter of a property. -/
def converter : Filling Converter := record "config.ConverterConfig" [
  field "match_property" (·.matchProperty) (fun c v => { c with matchProperty := v }) text,
  field "argument_count" (·.argumentCount) (fun c v => { c with argumentCount := v }) whole,
  field "output" (·.output) (fun c v => { c with output := v }) declarations]

/-- How sheets are compiled. -/
def compilerSection : Filling CompilerConfig := record "config.CompilerConfig" [
  field "pretty" (·.pretty) (fun c v => { c with pretty := v }) truth,
  field "keep_nesting_space" (·.keepNestingSpace)
    (fun c v => { c with keepNestingSpace := v }) truth,
  field "use_var_shortcut" (·.useVarShortcut) (fun c v => { c with useVarShortcut := v }) truth,
  field "merge" (·.merge) (fun c v => { c with merge := v }) text,
  field "merge_order" (·.mergeOrder) (fun c v => { c with mergeOrder := v }) text,
  field "verify" (·.verify) (fun c v => { c with verify := v }) truth,
  field "converters" (·.converters) (fun c v => { c with converters := v })
    (list "[]config.ConverterConfig" { matchProperty := [] } converter),
  field "at_rule_rewrites" (·.headerReplacements)
    (fun c v => { c with headerReplacements := v }) table]

/-- Where sources come from. -/
def inputSection : Filling InputConfig := record "config.InputConfig" [
  field "files" (·.files) (fun c v => { c with files := v }) texts,
  field "directories" (·.directories) (fun c v => { c with directories := v }) texts,
  field "extensions" (·.extensions) (fun c v => { c with extensions := v }) texts,
  field "exclude" (·.exclude) (fun c v => { c with exclude := v }) texts,
  field "jobs" (·.jobs) (fun c v => { c with jobs := v }) whole]

/-- Where the result goes. -/
def outputSection : Filling OutputConfig := record "config.OutputConfig" [
  field "file" (·.file) (fun c v => { c with file := v }) text,
  field "filename_tag" (·.filenameTag) (fun c v => { c with filenameTag := v }) filenameTag,
  field "banner" (·.banner) (fun c v => { c with banner := v }) text]

/-- What is logged at one place. -/
def logger : Filling LoggerConfig := record "config.LoggerConfig" [
  field "level" (·.level) (fun c v => { c with level := v }) text,
  field "destination" (·.destination) (fun c v => { c with destination := v }) text,
  field "mode" (·.mode) (fun c v => { c with mode := v }) text]

/-- What is logged. -/
def loggingSection : Filling LoggingConfig := record "config.LoggingConfig" [
  field "file" (·.file) (fun c v => { c with file := v }) logger,
  field "console" (·.console) (fun c v => { c with console := v }) logger]

/-- What is reported. -/
def reportingSection : Filling ReporterConfig := record "config.ReporterConfig" [
  field "destination" (·.destination) (fun _ v => { destination := v }) text]

/-- A configuration, section by section. -/
def sections : Filling Config := record "config.Config" [
  field "version" (·.version) (fun c v => { c with version := v }) whole,
  field "compiler" (·.compiler) (fun c v => { c with compiler := v }) compilerSection,
  field "input" (·.input) (fun c v => { c with input := v }) inputSection,
  field "output" (·.output) (fun c v => { c with output := v }) outputSection,
  field "logging" (·.logging) (fun c v => { c with logging := v }) loggingSection,
  field "reporting" (·.reporting) (fun c v => { c with reporting := v }) reportingSection]

/-- Puts a document on top of a configuration. -/
def decode (c : Config) (t : Text) : Except DocumentError Config :=
  match Yaml.Node.parse t with
  | .error e => .error (.syntaxError e)
  | .ok none => .error .noDocument
  | .ok (some n) => do
    match ← (sections c n).run [] with
    | (filled, []) => return filled.getD c
    | (_, ms) => throw (.mismatches ms)

end NestedCss.Config
