import NestedCss.Config
import NestedCss.Yaml.KeyOrder
import NestedCss.Yaml.Printer
/-!
# Writing configurations

A configuration is written as a document that reads back as the same configuration. The defaults
have a written form of their own, with comments.
-/
namespace NestedCss

open Yaml (Value)

/-- An entry of a section. -/
def entry (name : String) (v : Value) : Value × Value := (.bare (Text.ofString name), v)

/-- A truth value. -/
def truthValue (b : Bool) : Value := .bare (Text.ofString (if b then "true" else "false"))

/-- A whole number. -/
def wholeValue (n : Int) : Value := .bare (Text.ofInt n)

/-- A list of texts. -/
def textValues (ts : List Text) : Value := .list (ts.map .text)

/-- A converter. -/
def Converter.toValue (c : Converter) : Value := .table [
  entry "match_property" (.text c.matchProperty),
  entry "argument_count" (wholeValue c.argumentCount),
  entry "output" (.table (c.output.map fun d => (.node d.property, .node d.value)))]

/-- How sheets are compiled. -/
def CompilerConfig.toValue (c : CompilerConfig) : Value := .table [
  entry "pretty" (truthValue c.pretty),
  entry "keep_nesting_space" (truthValue c.keepNestingSpace),
  entry "use_var_shortcut" (truthValue c.useVarShortcut),
  entry "merge" (.text c.merge),
  entry "merge_order" (.text c.mergeOrder),
  entry "verify" (truthValue c.verify),
  entry "converters" (.list (c.converters.map Converter.toValue)),
  entry "at_rule_rewrites"
    (.table ((Yaml.sortEntries c.headerReplacements).map fun (k, v) => (.text k, .text v)))]

/-- Where sources come from. -/
def InputConfig.toValue (c : InputConfig) : Value := .table [
  entry "files" (textValues c.files),
  entry "directories" (textValues c.directories),
  entry "extensions" (textValues c.extensions),
  entry "exclude" (textValues c.exclude),
  entry "jobs" (wholeValue c.jobs)]

/-- Where the result goes. -/
def OutputConfig.toValue (c : OutputConfig) : Value := .table [
  entry "file" (.text c.file),
  entry "filename_tag" (.text c.filenameTag.name),
  entry "banner" (.text c.banner)]

/-- What is logged at one place. Empty fields are left out. -/
def LoggerConfig.toValue (c : LoggerConfig) : Value :=
  let unlessEmpty (name : String) (t : Text) : List (Value × Value) :=
    if t.isEmpty then [] else [entry name (.text t)]
  .table (entry "level" (.text c.level)
    :: unlessEmpty "destination" c.destination ++ unlessEmpty "mode" c.mode)

namespace Config

/-- A configuration as a value. -/
def toValue (c : Config) : Value := .table [
  entry "version" (wholeValue c.version),
  entry "compiler" c.compiler.toValue,
  entry "input" c.input.toValue,
  entry "output" c.output.toValue,
  entry "logging" (.table [
    entry "file" c.logging.file.toValue,
    entry "console" c.logging.console.toValue]),
  entry "reporting" (.table [entry "destination" (.text c.reporting.destination)])]

/-- A configuration as a document. -/
def render (c : Config) : Text := c.toValue.render

/-- The lines of the defaults, with comments that explain them. -/
def defaultLines : List String := [
  "# Configuration for xcss, nested CSS compiler.",
  "# Values from a user supplied file are put on top of these defaults.",
  "version: 1",
  "compiler:",
  "    # indented output with spaces around combinators and after commas",
  "    pretty: true",
  "    # keep whitespace that follows '&' in nested selectors",
  "    keep_nesting_space: false",
  "    # rewrite bare --name in values as var(--name)",
  "    use_var_shortcut: true",
  "    # comma separated list of: none, selectors, atrules, declarations, all",
  "    merge: none",
  "    # which occurrence of merged rule keeps its place: preserve_first or preserve_last",
  "    merge_order: preserve_last",
  "    # run compiled result through CSS parser before writing it out",
  "    verify: false",
  "    # property converters, output is ordered mapping of property to value,",
  "    # dollar sign followed by argument number refers to a value argument,",
  "    # dollar sign followed by star refers to the whole value",
  "    converters: []",
  "    # at-rule header replacements, \"@name args\" to \"@replacement\"",
  "    at_rule_rewrites: \x7b\x7d",
  "input:",
  "    files: []",
  "    directories: []",
  "    # extensions picked up when walking directories and archives",
  "    extensions: [\".xcss\", \".ncss\"]",
  "    # regular expressions matched against slash separated paths",
  "    exclude: []",
  "    jobs: 4",
  "output:",
  "    # empty means standard output",
  "    file: \"\"",
  "    # comment put in front of each compiled file: none, full or relative",
  "    filename_tag: none",
  "    # text/template (with sprig functions) expanded into a comment at the top of",
  "    # the result, fields: BuildID, Version, Files, Time",
  "    banner: \"\"",
  "logging:",
  "    console:",
  "        level: normal",
  "    file:",
  "        level: none",
  "        destination: xcss.log",
  "        mode: overwrite",
  "reporting:",
  "    destination: xcss-report.zip"]

/-- The defaults as a document. -/
def defaultDocument : Text :=
  defaultLines.flatMap fun l => Text.ofString l ++ [Byte.lineFeed]

end Config

end NestedCss
