import NestedCss.Cache
import NestedCss.Compiler
import NestedCss.Origin
import NestedCss.Text.Digest
/-!
# Compiling sources side by side

Every source has a worker, and at most `jobs` workers are under way at a time. Workers share one
cache. A worker that fails notes its failure, and then makes the workers that start later give up. A
schedule tells which worker moves next; what comes out is the same for every schedule, but for which
of several failures is told.
-/
namespace NestedCss

/-- A compiled source. -/
structure Compiled where
  /-- The output tree. -/
  sheet : Stylesheet
  /-- The text of the output tree. -/
  css : Text

/-- Compiles a text to its tree and its output. -/
def Compiled.ofText (opts : Options) (t : Text) : Except CompileError Compiled :=
  (Compiler.build t opts).map fun sheet => ⟨sheet, sheet.print opts.pretty⟩

/-- Why sources are not compiled. -/
inductive PoolError where
  /-- The build was called off. -/
  | cancelled
  /-- A source does not compile. -/
  | source (path : Text) (e : CompileError)

/-- How far a worker has come. -/
inductive Stage where
  /-- It has not started. -/
  | waiting
  /-- It is about to see whether it should give up. -/
  | checking
  /-- It is about to look its text up in the cache. -/
  | looking
  /-- It is about to compile. -/
  | compiling
  /-- It is about to put its result into the cache. -/
  | storing (c : Compiled)
  /-- It is about to write its output. -/
  | writing (c : Compiled)
  /-- It is about to note its failure. -/
  | failing (e : PoolError)
  /-- It has noted its failure, and is about to make the others give up. -/
  | stopping
  /-- It is done. -/
  | finished

/-- Whether a worker is under way. -/
def Stage.isActive : Stage → Bool
  | waiting | finished => false
  | _ => true

/-- Whether a worker has not started. -/
def Stage.isWaiting : Stage → Bool
  | waiting => true
  | _ => false

/-- The workers of a build. -/
structure Pool where
  /-- How many workers may be under way at a time. -/
  jobs : Nat
  /-- The sources, one for each worker. -/
  sources : List SourceFile
  /-- How far each worker has come. -/
  stages : List Stage
  /-- The cache that the workers share. -/
  cache : Cache Compiled
  /-- The outputs that have been written, by the numbers of the workers. -/
  outputs : List (Option Compiled)
  /-- The workers that have written their output, in the order of writing. -/
  written : List Nat := []
  /-- The failures, in the order in which they were noted. -/
  failures : List PoolError := []
  /-- Whether a failure has made the workers give up that start from now on. -/
  stopped : Bool := false
  /-- Whether the build has been called off. -/
  cancelled : Bool := false

namespace Pool

/-- The workers before any of them has started. -/
def start (jobs : Nat) (sources : List SourceFile) (cache : Cache Compiled) (cancelled : Bool) :
    Pool :=
  { jobs, sources, cache, cancelled
    stages := sources.map fun _ => .waiting
    outputs := sources.map fun _ => none }

/-- The pool with a worker at a stage. -/
def setStage (p : Pool) (i : Nat) (s : Stage) : Pool := { p with stages := p.stages.set i s }

/-- Whether a worker may start: those before it have started, and there is room for it. -/
def mayStart (p : Pool) (i : Nat) : Bool :=
  (p.stages.take i).all (fun s => !s.isWaiting) && p.stages.countP Stage.isActive < p.jobs

/-- The pool after a move of one worker. -/
def step (hash : Text → UInt64) (build : Text → Except CompileError Compiled) (p : Pool)
    (i : Nat) : Pool :=
  match p.stages[i]?, p.sources[i]? with
  | some stage, some source =>
    match stage with
    | .waiting => if p.mayStart i then p.setStage i .checking else p
    | .checking => p.setStage i (if p.cancelled || p.stopped then .failing .cancelled else .looking)
    | .looking =>
      match p.cache.lookup (hash source.text) source.text with
      | (some c, cache) => { p with cache }.setStage i (.writing c)
      | (none, cache) => { p with cache }.setStage i .compiling
    | .compiling =>
      match build source.text with
      | .ok c => p.setStage i (.storing c)
      | .error e => p.setStage i (.failing (.source source.path e))
    | .storing c =>
      { p with cache := p.cache.store (hash source.text) source.text c }.setStage i (.writing c)
    | .writing c =>
      { p with outputs := p.outputs.set i (some c), written := p.written ++ [i] }.setStage i
        .finished
    | .failing e => { p with failures := p.failures ++ [e] }.setStage i .stopping
    | .stopping => { p with stopped := true }.setStage i .finished
    | .finished => p
  | _, _ => p

/-- The pool after the moves of a schedule. -/
def run (hash : Text → UInt64) (build : Text → Except CompileError Compiled) (p : Pool)
    (schedule : List Nat) : Pool :=
  schedule.foldl (step hash build) p

/-- The schedule that moves one worker after the other from start to end. A worker makes at most six
moves. -/
def inOrder (workers : Nat) : List Nat := (List.range workers).flatMap (List.replicate 6)

/-- The outputs of all workers, or the first failure. -/
def result (p : Pool) : Except PoolError (List Compiled) :=
  match p.failures with
  | e :: _ => .error e
  | [] => .ok (p.outputs.filterMap id)

end Pool

end NestedCss
