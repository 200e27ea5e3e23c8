import NestedCss.Build.Collection
import NestedCss.Build.Pool
import NestedCss.Check
import NestedCss.Log
import NestedCss.Report
/-!
# Builds

A build collects sources, compiles them, joins the outputs and writes the result. A builder can
build again: it keeps what it has compiled, and compiles only what has changed.
-/
namespace NestedCss

/-! ### Errors -/

/-- Why a build fails. -/
inductive BuildError where
  /-- Sources cannot be collected. -/
  | collect (e : CollectError)
  /-- There are no sources. -/
  | noSources
  /-- The build was called off. -/
  | cancelled
  /-- A source does not compile. -/
  | source (path : Text) (e : CompileError)
  /-- The banner cannot be written. -/
  | banner (e : BannerError)
  /-- The result is no proper style sheet. -/
  | unsound (e : Check.Refusal)
  /-- There is no directory for the result. -/
  | noDirectory (e : FileError)
  /-- The result cannot be written. -/
  | unwritable (e : FileError)

/-- The wording of an error. -/
def BuildError.message : BuildError → Text
  | collect e => e.message
  | noSources => Text.ofString "no sources found to compile"
  | cancelled => cancelledMessage
  | source path e => SourceError.message ⟨path, .compile e⟩
  | banner e => e.message
  | unsound e => Text.ofString "compiled result failed verification: " ++ e.message
  | noDirectory e => Text.ofString "unable to create output directory: " ++ e.message
  | unwritable e => Text.ofString "unable to write result: " ++ e.message

/-! ### Builders -/

/-- What a builder keeps from build to build. -/
structure Builder where
  /-- The settings. -/
  settings : BuildSettings
  /-- What has been compiled. -/
  cache : Cache Compiled := {}
  /-- The debug report, if there is one. -/
  report : Option Report := none

/-- What a build finds. -/
structure BuildInput where
  /-- The files. -/
  tree : FileTree
  /-- What standard input holds. -/
  stdin : Text := []
  /-- Whether the build has been called off. -/
  cancelled : Bool := false
  /-- The reader of double-byte encodings. -/
  foreign : Encoding.DoubleByte.Reader
  /-- The name of the build. -/
  buildId : Text := []
  /-- The version of the program. -/
  version : Text := Text.ofString "dev"
  /-- The time. -/
  time : DateTime

/-- A finished build. -/
structure BuildResult where
  /-- The sources, in the order of the output. -/
  sources : List SourceFile
  /-- The result. -/
  css : Text
  /-- The path of the result; an empty one stands for standard output. -/
  destination : Text

/-- What a build leaves behind. -/
structure BuildOutcome where
  /-- The builder for the next build. -/
  builder : Builder
  /-- The files. -/
  tree : FileTree
  /-- What was written to standard output. -/
  stdout : Text := []
  /-- What was told on the way. -/
  log : List LogEntry := []
  /-- How often the cache had a result and how often not, if all sources were compiled. -/
  counts : Option (Nat × Nat) := none
  /-- The result. -/
  result : Except BuildError BuildResult

/-- What is told of a source that does not compile. -/
def failureEntries (path : Text) (e : CompileError) : List LogEntry := [
  .error "xcss.build" "Unable to compile" [("source", .text path), ("line", .number e.line),
    ("column", .number e.column), ("message", .text e.fault.message)],
  { level := .error, logger := Text.ofString "xcss.build"
    message := Text.ofString "Error location\n" ++ e.snippet }]

/-- What is told of the failures of workers. -/
def poolEntries (failures : List PoolError) : List LogEntry :=
  failures.flatMap fun
    | .cancelled => []
    | .source path e => failureEntries path e

/-- The report with the trees of the sources that have been compiled. -/
def reportTrees (r : Report) (p : Pool) : Report :=
  p.written.foldl (fun r i =>
    match p.sources[i]?, p.outputs[i]? with
    | some s, some (some c) =>
      r.storeData (Text.ofString "trees/" ++ flatFileName s.path ++ Text.ofString ".txt")
        c.sheet.outline
    | _, _ => r) r

/-- Writes a result to its destination: the files, and what goes to standard output. -/
def deliver (t : FileTree) (destination css : Text) : Except BuildError (FileTree × Text) :=
  let text := css ++ [Byte.lineFeed]
  if destination.isEmpty then .ok (t, text)
  else match t.makeDirectories (Path.directory destination) with
    | .error e => .error (.noDirectory e)
    | .ok t =>
      match t.write destination text with
      | .error e => .error (.unwritable e)
      | .ok t => .ok (t, [])

/-- What is told of a finished build. -/
def BuildResult.entry (r : BuildResult) : LogEntry :=
  let place := if r.destination.isEmpty then Text.ofString "STDOUT" else r.destination
  .info "xcss.build" "Build completed" [("files", .number r.sources.length),
    ("destination", .text place),
    ("size", .text (Size.render r.css.length))]

namespace Builder

/-- Joins the outputs of the sources, behind the banner, and checks the result if the settings ask
for it. -/
def joinOutputs (b : BuildSettings) (i : BuildInput) (sources : List SourceFile)
    (outputs : List Compiled) : Except BuildError Text :=
  let facts := ⟨i.buildId, i.version, sources.map SourceFile.path, i.time⟩
  match expandBanner b.banner facts with
  | .error e => .error (.banner e)
  | .ok banner =>
    let css := assemble b.filenameTag b.options.pretty banner
      (sources.zip (outputs.map Compiled.css))
    if b.verify then
      match Check.check css with
      | .ok _ => .ok css
      | .error e => .error (.unsound e)
    else .ok css

/-- Compiles sources with the workers in order. -/
def compileAll (b : Builder) (cancelled : Bool) (sources : List SourceFile) : Pool :=
  (Pool.start b.settings.jobs sources b.cache cancelled).run Digest.xxh64
    (Compiled.ofText b.settings.options) (Pool.inOrder sources.length)

/-- Runs a build. -/
def build (b : Builder) (i : BuildInput) : BuildOutcome :=
  match collectSources ⟨b.settings, i.tree, i.stdin, i.cancelled, i.foreign⟩ with
  | .error e => { builder := b, tree := i.tree, result := .error (.collect e) }
  | .ok [] => { builder := b, tree := i.tree, result := .error .noSources }
  | .ok sources =>
    let pool := b.compileAll i.cancelled sources
    let report := b.report.map fun r => reportTrees r pool
    match pool.result with
    | .error e =>
      { builder := { b with cache := pool.cache, report }
        tree := i.tree
        log := poolEntries pool.failures
        result := .error (match e with
          | .cancelled => .cancelled
          | .source path e => .source path e) }
    | .ok outputs =>
      let (counts, cache) := pool.cache.sweep
      let b := { b with cache, report }
      let result := do
        let css ← joinOutputs b.settings i sources outputs
        let (tree, stdout) ← deliver i.tree b.settings.output css
        return (css, tree, stdout)
      match result with
      | .error e => { builder := b, tree := i.tree, counts := some counts, result := .error e }
      | .ok (css, tree, stdout) =>
        let result : BuildResult := ⟨sources, css, b.settings.output⟩
        { builder := { b with
            report := b.report.map fun r => r.storeData (Text.ofString "output.css") css }
          tree, stdout
          log := [result.entry]
          counts := some counts
          result := .ok result }

end Builder

end NestedCss
