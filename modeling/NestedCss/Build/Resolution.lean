import NestedCss.Build.Settings
import NestedCss.CommandLine
import NestedCss.Config
/-!
# The settings of a run

A build follows the configuration, except where the command line says otherwise. Relative paths in a
configuration are seen from its directory, those on the command line from the working directory.
-/
namespace NestedCss

/-- Why there are no settings. -/
inductive SettingsError where
  /-- There is no such comment. -/
  | filenameTag (e : TagError)
  /-- The number of workers is not positive. -/
  | jobs (n : Int)
  /-- There are no extensions. -/
  | noExtensions
  /-- There is no such option. -/
  | option (e : OptionError)
  /-- An expression cannot be read. -/
  | exclusion (e : ExclusionError)
  /-- The banner cannot be read. -/
  | banner (e : BannerError)
  /-- There is nothing to compile. -/
  | noInput

/-- The wording of an error. -/
def SettingsError.message : SettingsError → Text
  | .filenameTag e => e.message
  | .jobs n =>
    Text.ofString "number of parallel jobs must be positive, got " ++ Text.ofInt n
  | .noExtensions => Text.ofString "at least one source file extension is required"
  | .option e => Text.ofString "bad compiler settings: " ++ e.message
  | .exclusion e => e.message
  | .banner e => e.message
  | .noInput => Text.ofString "no input has been specified"

/-- The flags of a build. -/
def buildFlags : List Flag := [
  ⟨"file", .texts, ["f"]⟩, ⟨"dir", .texts, []⟩, ⟨"extension", .texts, ["x"]⟩,
  ⟨"exclude", .texts, ["e"]⟩, ⟨"stdin", .truth, []⟩, ⟨"outfile", .text, ["o"]⟩,
  ⟨"pretty", .truth, []⟩, ⟨"keep-nesting-space", .truth, []⟩, ⟨"var-shortcut", .truth, []⟩,
  ⟨"merge", .text, []⟩, ⟨"merge-order", .text, []⟩, ⟨"filename-tag", .text, []⟩,
  ⟨"verify", .truth, []⟩, ⟨"jobs", .whole, ["j"]⟩]

/-- The path that stands for standard output. -/
def stdoutPath : Text := [Byte.hyphen]

/-- The absolute form of a path on the command line. -/
def argumentPath (workDir p : Text) : Text :=
  if p.isEmpty || p == stdoutPath then p else Path.absolute workDir p

/-- The paths that are not empty, each in another form. -/
def mapPaths (f : Text → Text) (ps : List Text) : List Text := (ps.filter (! ·.isEmpty)).map f

/-- The compiler settings with those of the command line on top. -/
def CompilerConfig.override (c : CompilerConfig) (a : Arguments) : CompilerConfig :=
  { c with
    pretty := (a.truth? "pretty").getD c.pretty
    keepNestingSpace := (a.truth? "keep-nesting-space").getD c.keepNestingSpace
    useVarShortcut := (a.truth? "var-shortcut").getD c.useVarShortcut
    merge := (a.text? "merge").getD c.merge
    mergeOrder := (a.text? "merge-order").getD c.mergeOrder
    verify := (a.truth? "verify").getD c.verify }

/-- The files and directories of a build. Those of the configuration count only if the command line
names nothing to compile. -/
def inputPaths (t : FileTree) (configDir : Text) (c : InputConfig) (a : Arguments) :
    List Text × List Text :=
  let onLine := argumentPath t.workDir
  if a.isSet "file" || a.isSet "dir" || !a.words.isEmpty || (a.truth? "stdin").getD false then
    let (directories, files) := (a.words.map onLine).partition t.isDirectory
    (mapPaths onLine ((a.texts? "file").getD []) ++ files,
      mapPaths onLine ((a.texts? "dir").getD []) ++ directories)
  else (mapPaths (Path.resolve configDir) c.files, mapPaths (Path.resolve configDir) c.directories)

/-- The path of the result. -/
def outputPath (workDir configDir : Text) (c : OutputConfig) (a : Arguments) : Text :=
  let path := match a.text? "outfile" with
    | some p => argumentPath workDir p
    | none => if c.file == stdoutPath then c.file else Path.resolve configDir c.file
  if path == stdoutPath then [] else path

/-- The settings of a build, for a configuration whose paths are seen from a directory. -/
def resolveSettings (t : FileTree) (configDir : Text) (c : Config) (a : Arguments) :
    Except SettingsError BuildSettings := do
  let filenameTag ← match a.text? "filename-tag" with
    | some name => (FilenameTag.parse name).mapError .filenameTag
    | none => .ok c.output.filenameTag
  let jobs := (a.whole? "jobs").getD c.input.jobs
  if jobs < 1 then throw (.jobs jobs)
  let extensions := (a.texts? "extension").getD c.input.extensions
  if extensions.isEmpty then throw .noExtensions
  let compiler := c.compiler.override a
  let options ← compiler.options.mapError .option
  let exclude ← (Exclusion.parseAll ((a.texts? "exclude").getD c.input.exclude)).mapError .exclusion
  let banner ← (Banner.parse c.output.banner).mapError .banner
  let stdin := (a.truth? "stdin").getD false
  let (files, directories) := inputPaths t configDir c.input a
  if files.isEmpty && directories.isEmpty && !stdin then throw .noInput
  return {
    files, directories, stdin, extensions, exclude
    output := outputPath t.workDir configDir c.output a
    filenameTag, banner
    jobs := jobs.toNat
    verify := compiler.verify
    options }

end NestedCss
