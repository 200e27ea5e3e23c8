import NestedCss.Build
import NestedCss.Build.Resolution
import NestedCss.Config.Printer
import NestedCss.Config.Validation
import NestedCss.Watch
/-!
# The program

The commands of the program: `build` compiles once, `watch` compiles whenever sources change, and
`dumpconfig` writes the configuration. A run is a value: it takes the files as they are found and
gives them as they are left, with all that is written and told.
-/
namespace NestedCss

/-! ### Commands -/

/-- The flags of all commands. -/
def globalFlags : List Flag := [⟨"config", .text, ["c"]⟩, ⟨"debug", .truth, ["d"]⟩]

/-- The commands with their flags. -/
def commands : List (String × List Flag) := [
  ("build", buildFlags), ("watch", buildFlags), ("dumpconfig", [⟨"default", .truth, []⟩])]

/-- The flags of a command. -/
def commandFlags? (name : Text) : Option (List Flag) :=
  (commands.find? fun c => Text.ofString c.1 == name).map (·.2)

/-- A command line that has been read. -/
structure Invocation where
  /-- The command. -/
  command : Text
  /-- Its arguments, with the flags before it. -/
  arguments : Arguments

/-- Reads a command line. One without a command asks for nothing. -/
def Invocation.read (args : List Text) : Except UsageError (Option Invocation) := do
  let before ← Arguments.read globalFlags (fun t => (commandFlags? t).isSome) {} args
  match before.words with
  | [] => return none
  | name :: rest =>
    match commandFlags? name with
    | none => return some ⟨name, before⟩
    | some flags =>
      let arguments ← Arguments.read (flags ++ globalFlags) (fun _ => false)
        { before with words := [] } rest
      return some ⟨name, arguments⟩

/-! ### Sessions -/

/-- What a run finds. -/
structure ProgramInput where
  /-- The command line. -/
  args : List Text
  /-- The files. -/
  tree : FileTree
  /-- What standard input holds. -/
  stdin : Text := []
  /-- The reader of double-byte encodings. -/
  foreign : Encoding.DoubleByte.Reader
  /-- The name of the build. -/
  buildId : Text := []
  /-- The version of the program. -/
  version : Text := Text.ofString "dev"
  /-- The time. -/
  time : DateTime

/-- Why a run fails. -/
inductive ProgramError where
  /-- The command line cannot be read. -/
  | usage (e : UsageError)
  /-- There is no configuration. -/
  | config (e : ConfigError)
  /-- There are no settings. -/
  | settings (e : SettingsError)
  /-- The build failed. -/
  | build (e : BuildError)
  /-- Standard input is to be watched. -/
  | watchStdin
  /-- There is no file for the result of rebuilds. -/
  | watchStdout
  /-- The sources cannot be watched. -/
  | watch (e : WatchError)
  /-- The configuration cannot be written. -/
  | destination (path : Text) (e : FileError)

/-- The wording of an error. -/
def ProgramError.message : ProgramError → Text
  | .usage e => e.message
  | .config e => Text.ofString "unable to prepare configuration: " ++ e.message
  | .settings e => e.message
  | .build e => e.message
  | .watchStdin => Text.ofString "standard input cannot be watched"
  | .watchStdout => Text.ofString "watch requires output file"
  | .watch e => e.message
  | .destination path e =>
    Text.ofString "unable to create destination file '" ++ path ++ Text.ofString "': " ++ e.message

/-- A run that has a configuration. -/
structure Session where
  /-- What it found. -/
  input : ProgramInput
  /-- The configuration. -/
  config : Config
  /-- The directory from which the paths of the configuration are seen. -/
  configDir : Text
  /-- The files. -/
  tree : FileTree
  /-- The debug report, if one is asked for. -/
  report : Option Report := none
  /-- What was written to standard output. -/
  stdout : Text := []
  /-- What was told. -/
  log : List LogEntry := []

namespace Session

/-- Tells something. -/
def tell (s : Session) (es : List LogEntry) : Session := { s with log := s.log ++ es }

/-- Whether the log file is written: the configuration or a report asks for it. -/
def hasLogFile (s : Session) : Bool :=
  s.report.isSome || Config.isOne ["debug", "normal"] s.config.logging.file.level

/-- Empties a file, or makes it. A file that cannot be written is left out. -/
def touch (t : FileTree) (p : Text) : FileTree := (t.write p []).toOption.getD t

/-- Whether an old log is written on. -/
def keepsLog (s : Session) : Bool :=
  s.report.isNone && s.config.logging.file.mode == Text.ofString "append"

/-- The old log, if it is written on. -/
def oldLog (s : Session) : Text :=
  if s.keepsLog then (s.tree.read s.config.logging.file.destination).toOption.getD [] else []

/-- Starts the debug report. -/
def startReport (s : Session) (configFile : Option Text) : Session :=
  let destination := s.config.reporting.destination
  let report : Report := match configFile with
    | some path =>
      ({} : Report).storeData (Text.ofString "config/" ++ Path.name path) s.config.render
    | none => {}
  { s with
    tree := touch s.tree destination
    report := some (report.store s.tree.workDir (Text.ofString "final.log")
      s.config.logging.file.destination)
    log := [.info "xcss" "Creating debug report"
      [("location", .text (Path.absolute s.tree.workDir destination))]] }

/-- Starts a session: finds and loads the configuration. -/
def start (i : ProgramInput) (a : Arguments) : Except ConfigError Session := do
  let file := match (a.text? "config").filter (! ·.isEmpty) with
    | some path => some path
    | none => Config.locate? i.tree i.tree.workDir
  let (config, tree) ← Config.load i.tree file
  let configDir := match file with
    | some path => Path.directory (Path.absolute i.tree.workDir path)
    | none => i.tree.workDir
  let s : Session := { input := i, config, configDir, tree }
  return if (a.truth? "debug").getD false then s.startReport file else s

/-- The files after a session: the log and the report are written. -/
def finish (s : Session) : FileTree :=
  let written := s.log.flatMap fun e => e.render s.input.time
  let tree := if s.hasLogFile then
      (s.tree.write s.config.logging.file.destination (s.oldLog ++ written)).toOption.getD s.tree
    else s.tree
  match s.report with
  | none => tree
  | some r =>
    (tree.write s.config.reporting.destination
      (Archive.write (r.contents tree s.input.time))).toOption.getD tree

/-- What the console shows of what was told. -/
def consoleLog (s : Session) : List LogEntry :=
  if Config.isOne ["debug", "normal"] s.config.logging.console.level then s.log else []

end Session

/-! ### Running commands -/

/-- Sources that are watched, and the builder that compiles them. -/
structure Watching where
  /-- The builder. -/
  builder : Builder
  /-- The watcher. -/
  watcher : Watcher

/-- What is watched for a build: what it reads, except its own result. -/
def BuildSettings.watched (b : BuildSettings) : WatchSettings :=
  { roots := b.files ++ b.directories, extensions := b.extensions, exclude := b.exclude
    ignore := [b.output], skipHidden := true }

/-- The quiet period before a rebuild, in milliseconds. -/
def debounceInterval : Nat := 500

namespace Session

/-- Runs a build. -/
def build (s : Session) (b : Builder) : Session × Builder × Option BuildError :=
  let o := b.build {
    tree := s.tree, stdin := s.input.stdin, foreign := s.input.foreign
    buildId := s.input.buildId, version := s.input.version, time := s.input.time }
  let s := { s with
    tree := o.tree
    report := o.builder.report
    stdout := s.stdout ++ o.stdout
    log := s.log ++ o.log }
  match o.result with
  | .ok _ => (s, o.builder, none)
  | .error e => (s, o.builder, some e)

/-- The settings of the command. -/
def settings (s : Session) (a : Arguments) : Except ProgramError BuildSettings :=
  (resolveSettings s.tree s.configDir s.config a).mapError .settings

/-- Compiles once. -/
def runBuild (s : Session) (a : Arguments) : Session × Option ProgramError :=
  match s.settings a with
  | .error e => (s, some e)
  | .ok settings =>
    let (s, _, e) := s.build { settings, report := s.report }
    (s, e.map .build)

/-- The settings of a command that watches, which needs files to read and to write. -/
def watchSettings (s : Session) (a : Arguments) : Except ProgramError BuildSettings := do
  let settings ← s.settings a
  if settings.stdin then throw .watchStdin
  if settings.output.isEmpty then throw .watchStdout
  return settings

/-- Compiles, and starts to watch the sources. -/
def runWatch (s : Session) (a : Arguments) : Session × Except ProgramError Watching :=
  match s.watchSettings a with
  | .error e => (s, .error e)
  | .ok settings =>
    let (s, builder, e) := s.build { settings, report := s.report }
    let s := s.tell (e.toList.map fun e =>
      .error "xcss.watch" "Initial build failed" [("error", .text e.message)])
    match Watcher.start settings.watched s.tree >>= Watcher.run with
    | .error e => (s, .error (.watch e))
    | .ok watcher =>
      let entry := .info "xcss.watcher" "File watcher started"
        [("roots", .texts settings.watched.roots),
          ("debounce", .text (Text.ofNat debounceInterval ++ Text.ofString "ms"))]
      (s.tell [entry], .ok ⟨builder, watcher⟩)

/-- Compiles again after paths have changed. -/
def rebuild (s : Session) (w : Watching) (paths : List Text) : Session × Watching :=
  let s := s.tell [.info "xcss.watch" "Sources changed, rebuilding" [("paths", .texts paths)]]
  let (s, builder, e) := s.build w.builder
  (s.tell (e.toList.map fun e =>
    .error "xcss.watch" "Rebuild failed" [("error", .text e.message)]), { w with builder })

/-- Writes the configuration, or the defaults. -/
def runDump (s : Session) (a : Arguments) : Session × Option ProgramError :=
  let s := match a.words with
    | _ :: b :: more => s.tell [.warn "xcss" "Malformed command line, too many destinations"
        [("ignoring", .texts (b :: more))]]
    | _ => s
  let isDefault := (a.truth? "default").getD false
  let data := if isDefault then Config.defaultDocument else s.config.render
  let entry (file : Text) : LogEntry := .info "xcss" "Outputing configuration"
    [("state", .text (Text.ofString (if isDefault then "default" else "actual"))),
      ("file", .text file)]
  match (a.words.headD []) with
  | [] => ({ s with stdout := s.stdout ++ data }.tell [entry (Text.ofString "STDOUT")], none)
  | path =>
    match s.tree.write path data with
    | .error e => (s, some (.destination path e))
    | .ok tree => ({ s with tree }.tell [entry path], none)

end Session

/-! ### Whole runs -/

/-- What a run leaves behind. -/
structure ProgramOutcome where
  /-- Whether it failed. -/
  failed : Bool
  /-- What was written to standard output. -/
  stdout : Text := []
  /-- What was written to standard error before anything was told. -/
  stderr : Text := []
  /-- What the console shows of what was told. -/
  log : List LogEntry := []
  /-- The files. -/
  tree : FileTree

/-- How far a run has come. -/
inductive Progress where
  /-- It has ended. -/
  | ended (o : ProgramOutcome)
  /-- It watches the sources. -/
  | watching (s : Session) (w : Watching)

/-- The end of a session. -/
def Session.stop (s : Session) (error : Option ProgramError) : ProgramOutcome :=
  let s := s.tell (error.toList.map fun e =>
    .error "xcss" "Program ended with error" [("error", .text e.message)])
  { failed := error.isSome, stdout := s.stdout, log := s.consoleLog, tree := s.finish }

/-- The end of a session that watches. -/
def Session.stopWatching (s : Session) : ProgramOutcome :=
  (s.tell [.info "xcss.watcher" "File watcher stopped" []]).stop none

namespace Program

/-- The outcome of a run that fails before anything can be told. -/
def failEarly (t : FileTree) (e : ProgramError) : ProgramOutcome :=
  { failed := true, tree := t
    stderr := Text.ofString "Program ended with error: " ++ e.message ++ [Byte.lineFeed] }

/-- Runs a command. -/
def runCommand (s : Session) (i : Invocation) : Progress :=
  let ended (r : Session × Option ProgramError) : Progress := .ended (r.1.stop r.2)
  if i.command == Text.ofString "build" then ended (s.runBuild i.arguments)
  else if i.command == Text.ofString "dumpconfig" then ended (s.runDump i.arguments)
  else if i.command == Text.ofString "watch" then
    match s.runWatch i.arguments with
    | (s, .ok w) => .watching s w
    | (s, .error e) => .ended (s.stop (some e))
  else
    let entry := .warn "xcss" "Unknown command, nothing to do" [("command", .text i.command)]
    .ended ((s.tell [entry]).stop none)

/-- Starts a run, which ends at once unless it watches. -/
def start (i : ProgramInput) : Progress :=
  match Invocation.read i.args with
  | .error e => .ended (failEarly i.tree (.usage e))
  | .ok none => .ended { failed := false, tree := i.tree }
  | .ok (some v) =>
    match Session.start i v.arguments with
    | .error e => .ended (failEarly i.tree (.config e))
    | .ok s => runCommand s v

/-- A whole run, in which watching ends as soon as it has started. -/
def run (i : ProgramInput) : ProgramOutcome :=
  match start i with
  | .ended o => o
  | .watching s _ => s.stopWatching

end Program

end NestedCss
