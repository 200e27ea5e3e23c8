import NestedCss.Program
/-!
# The command line

Reads the files that a run needs, runs the program on them, and writes what it leaves behind.
Sources are watched by looking at them again and again.
-/
namespace NestedCss.Main

/-! ### Texts and bytes -/

/-- The bytes of a text. -/
def toBytes (t : Text) : ByteArray := ⟨t.toArray⟩

/-- The text with some bytes. -/
def ofBytes (b : ByteArray) : Text := b.data.toList

/-- A text as a string, where bytes that are no characters are replaced. -/
def pathString (t : Text) : String := String.ofList (Utf8.chars t)

/-! ### Reading files -/

/-- The first bytes of a file. -/
def readFront (path : String) : IO Text :=
  IO.FS.withFile path .read fun h => return ofBytes (← h.read 8)

/-- The content of a file, or only its start if nothing more is needed: of a file that is neither a
source nor an archive the rest is never looked at. -/
def readContent (isSource : Text → Bool) (path : String) : IO Text := do
  let front ← readFront path
  if isSource (Text.ofString path) || Archive.hasMark front then
    return ofBytes (← IO.FS.readBinFile path)
  else return front

/-- Adds what is at an absolute path to a tree, with everything below it. -/
partial def scan (isSource : Text → Bool) (t : FileTree) (path : String) : IO FileTree := do
  let p := Path.clean (Text.ofString path)
  if t.nodes.any fun n => n.1 == p then return t
  let t := (t.makeDirectories (Path.directory p)).toOption.getD t
  try
    let file := (← IO.currentDir) / path
    match (← file.symlinkMetadata).type with
    | .dir =>
      let mut t := t.set p .directory
      for entry in ← file.readDir do
        t ← scan isSource t entry.path.toString
      return t
    | .file => return t.set p (.file (← readContent isSource path))
    | .symlink =>
      let goal ← IO.FS.realPath path
      scan isSource (t.set p (.link (Text.ofString goal.toString))) goal.toString
    | .other => return t
  catch _ => return t

/-- A tree of the working directory and of what is at some paths. -/
def snapshot (workDir : Text) (isSource : Text → Bool) (paths : List Text) : IO FileTree := do
  let empty : FileTree := { nodes := [], workDir }
  let mut t := (empty.makeDirectories workDir).toOption.getD empty
  for p in paths do
    t ← scan isSource t (pathString (Path.absolute workDir p))
  return t

/-! ### Writing files -/

/-- Writes what a run has changed. -/
def writeChanges (old new : FileTree) : IO Unit := do
  for (p, n) in new.nodes do
    if old.nodes.lookup p != some n then
      match n with
      | .file data =>
        IO.FS.createDirAll (pathString (Path.directory p))
        IO.FS.writeBinFile (pathString p) (toBytes data)
      | .directory => IO.FS.createDirAll (pathString p)
      | .link _ => pure ()

/-- Shows what a run has told. -/
def showLog (es : List LogEntry) (time : DateTime) : IO Unit := do
  let stderr ← IO.getStderr
  for e in es do
    stderr.write (toBytes (e.render time))
  stderr.flush

/-- Shows the outcome of a run, of whose log the first entries have been shown. -/
def showOutcome (o : ProgramOutcome) (time : DateTime) (shown : Nat) : IO UInt32 := do
  let stdout ← IO.getStdout
  stdout.write (toBytes o.stdout)
  stdout.flush
  (← IO.getStderr).write (toBytes o.stderr)
  showLog (o.log.drop shown) time
  return if o.failed then 1 else 0

/-! ### Runs -/

/-- The time of day, which the file system knows. -/
def now : IO DateTime := do
  let (_, path) ← IO.FS.createTempFile
  let time := (← path.metadata).modified
  IO.FS.removeFile path
  return .ofUnix time.sec time.nsec.toNat

/-- A name for a build, at random. -/
def newBuildId : IO Text := do
  let bytes ← IO.getRandomBytes 16
  return bytes.data.toList.flatMap fun b =>
    [b / 16, b % 16].map fun d => if d < 10 then 0x30 + d else 0x57 + d

/-- The paths that a run may have to look at before it has a configuration. -/
def configPaths (a : Arguments) : List Text :=
  ((a.text? "config").filter (! ·.isEmpty)).toList ++ Config.implicitNames.map Text.ofString

/-- The paths that a run looks at once it has a configuration. -/
def sessionPaths (s : Session) (a : Arguments) : List Text :=
  let (files, directories) := inputPaths s.tree s.configDir s.config.input a
  files ++ directories
    ++ [outputPath s.tree.workDir s.configDir s.config.output a, s.config.reporting.destination,
      s.config.logging.file.destination].filter (! ·.isEmpty)

/-- What a run finds. -/
def gather (args : List Text) : IO ProgramInput := do
  let workDir := Text.ofString (← IO.currentDir).toString
  let time ← now
  let buildId ← newBuildId
  match Invocation.read args with
  | .ok (some v) =>
    let early ← snapshot workDir (fun _ => true) (configPaths v.arguments)
    let stdin ← if (v.arguments.truth? "stdin").getD false then
        pure (ofBytes (← (← IO.getStdin).readBinToEnd))
      else pure []
    let input : ProgramInput :=
      { args, tree := early, stdin, foreign := Encoding.DoubleByte.readShared, buildId, time }
    match Session.start input v.arguments with
    | .error _ => return input
    | .ok s =>
      let extensions := (v.arguments.texts? "extension").getD s.config.input.extensions
      let (files, _) := inputPaths s.tree s.configDir s.config.input v.arguments
      let isSource (p : Text) : Bool :=
        files.contains p || (configPaths v.arguments).contains (Path.name p)
          || hasExtension p extensions
      let paths := configPaths v.arguments ++ sessionPaths s v.arguments
      return { input with tree := ← snapshot workDir isSource paths }
  | _ =>
    let tree ← snapshot workDir (fun _ => false) []
    return { args, tree, foreign := Encoding.DoubleByte.readShared, buildId, time }

/-- The events that lead from one tree to another. -/
def events (old new : FileTree) : List FileEvent :=
  (new.nodes.filterMap fun (p, n) =>
    match old.nodes.lookup p with
    | none => some { path := p, create := true }
    | some m => if m == n then none else some { path := p, write := true })
  ++ old.nodes.filterMap fun (p, _) =>
    if (new.nodes.lookup p).isNone then some { path := p, remove := true } else none

/-- Takes note of events. -/
def notice (w : Watcher) (t : FileTree) (es : List FileEvent) : Watcher :=
  es.foldl (fun w e =>
    let w := w.follow t e
    if w.accepts e then w.pend e.path else w) w

/-- Rebuilds whenever sources have changed and nothing has changed since for a while. -/
partial def watch (s : Session) (w : Watching) (shown : Nat) : IO UInt32 := do
  IO.sleep debounceInterval.toUInt32
  let input ← gather s.input.args
  let es := events s.tree input.tree
  let watcher := notice w.watcher input.tree es
  let s := { s with tree := input.tree, input }
  if es.any watcher.accepts || watcher.pending.isEmpty then watch s { w with watcher } shown
  else
    let (paths, watcher) := watcher.takePending
    let (next, w) := s.rebuild { w with watcher } paths
    writeChanges s.tree next.tree
    showLog (next.consoleLog.drop shown) input.time
    watch next w next.consoleLog.length

end NestedCss.Main

open NestedCss NestedCss.Main in
/-- Runs the program. -/
def main (args : List String) : IO UInt32 := do
  let input ← gather (args.map Text.ofString)
  match Program.start input with
  | .ended o =>
    writeChanges input.tree o.tree
    showOutcome o input.time 0
  | .watching s w =>
    writeChanges input.tree s.tree
    showLog s.consoleLog input.time
    watch s w s.consoleLog.length
