import NestedCss.Exclusion
import NestedCss.FileTree
import NestedCss.Origin
import NestedCss.Watch.Debouncer
/-!
# Watching sources

A watcher looks after files and directories. It tells which changes concern a source, follows new
directories, and gathers the changed paths until there is a quiet period.
-/
namespace NestedCss

/-! ### Events -/

/-- What happened to a path; several things may have happened at once. -/
structure FileEvent where
  /-- The path. -/
  path : Text
  /-- It was created. -/
  create : Bool := false
  /-- It was written. -/
  write : Bool := false
  /-- It was removed. -/
  remove : Bool := false
  /-- It was renamed. -/
  rename : Bool := false
  /-- Its attributes were changed. -/
  chmod : Bool := false
  deriving DecidableEq, Repr

/-- Whether an event tells of attributes and of nothing else. -/
def FileEvent.isChmodOnly (e : FileEvent) : Bool :=
  e.chmod && !e.create && !e.write && !e.remove && !e.rename

/-! ### Watchers -/

/-- What a watcher looks after. -/
structure WatchSettings where
  /-- The files and directories to watch, directories with everything below them. -/
  roots : List Text
  /-- The extensions of sources below directories. -/
  extensions : List Text := []
  /-- What is left out. -/
  exclude : List Exclusion := []
  /-- The paths whose changes are never told. -/
  ignore : List Text := []
  /-- Whether names that start with a dot are passed over. -/
  skipHidden : Bool := false

/-- A watcher. -/
structure Watcher where
  /-- What it looks after. -/
  settings : WatchSettings
  /-- The roots that are files. -/
  files : List Text := []
  /-- The roots that are directories. -/
  directories : List Text := []
  /-- The directories in which changes are noticed. -/
  watched : List Text := []
  /-- The changed paths that have not been told yet. -/
  pending : List Text := []
  /-- Whether it is telling changes. -/
  isRunning : Bool := false

/-- Why nothing can be watched. -/
inductive WatchError where
  /-- A root cannot be watched. -/
  | badRoot (root : Text) (cause : FileError)
  /-- The watcher is telling changes already. -/
  | alreadyRunning

/-- The wording of an error. -/
def WatchError.message : WatchError → Text
  | .badRoot root cause =>
    Text.ofString "failed to watch " ++ root ++ Text.ofString ": " ++ cause.message
  | .alreadyRunning => Text.ofString "watcher already running"

namespace WatchSettings

/-- Whether a path is passed over for its name. -/
def isHidden (s : WatchSettings) (path : Text) : Bool :=
  s.skipHidden && (Path.name path).startsWith [Byte.dot]

/-- Whether a directory below another one is watched: no name on the way down to it is hidden. -/
def isVisible (s : WatchSettings) (names : List Text) : Bool :=
  !(s.skipHidden && names.any (·.startsWith [Byte.dot]))

end WatchSettings

namespace Watcher

/-- Adds directories to those that are watched. -/
def watch (w : Watcher) (directories : List Text) : Watcher :=
  { w with watched := w.watched ++ (directories.map Path.clean).filter fun d =>
    !w.watched.contains d }

/-- Watches a directory and those below it. -/
def addDirectory (w : Watcher) (t : FileTree) (directory : Text) : Except FileError Watcher :=
  (t.walk directory).map fun found =>
    let visible := found.filter fun f => f.2 == .directory && w.settings.isVisible f.1
    w.watch (visible.map fun f => FileTree.extend directory f.1)

/-- Watches a root: a directory with everything below it, or the directory that a file is in. -/
def addRoot (t : FileTree) (w : Watcher) (root : Text) : Except WatchError Watcher :=
  match t.stat root with
  | .error e => .error (.badRoot root e)
  | .ok .directory =>
    match addDirectory { w with directories := w.directories ++ [root] } t root with
    | .ok w => .ok w
    | .error e => .error (.badRoot root e)
  | .ok _ => .ok ({ w with files := w.files ++ [root] }.watch [Path.directory root])

/-- The watcher for settings. -/
def start (s : WatchSettings) (t : FileTree) : Except WatchError Watcher :=
  s.roots.foldlM (addRoot t) { settings := s }

/-- Starts telling changes, which a watcher does once at a time. -/
def run (w : Watcher) : Except WatchError Watcher :=
  if w.isRunning then .error .alreadyRunning else .ok { w with isRunning := true }

/-- Stops telling changes. -/
def stop (w : Watcher) : Watcher := { w with isRunning := false }

/-- Whether a path is a directory root or lies below one. -/
def isUnderRoot (w : Watcher) (path : Text) : Bool :=
  w.directories.any fun d => Path.isWithin d path

/-- Whether an event is the change of something that is compiled. -/
def accepts (w : Watcher) (e : FileEvent) : Bool :=
  !e.isChmodOnly && !e.path.isEmpty && !w.settings.ignore.contains e.path
    && !(w.settings.exclude.any fun x => x.hits e.path)
    && (w.files.contains e.path
      || (w.isUnderRoot e.path && !w.settings.isHidden e.path
        && (hasExtension e.path w.settings.extensions
          || hasExtension e.path [Text.ofString ".zip"])))

/-- Watches a directory that was created below a root. -/
def follow (w : Watcher) (t : FileTree) (e : FileEvent) : Watcher :=
  if e.create && w.isUnderRoot e.path && !w.settings.isHidden e.path && t.isDirectory e.path then
    match w.addDirectory t e.path with
    | .ok w => w
    | .error _ => w
  else w

/-- Notes a changed path. -/
def pend (w : Watcher) (path : Text) : Watcher :=
  { w with pending := if w.pending.contains path then w.pending else w.pending ++ [path] }

/-- Takes the changed paths, in order, and starts gathering anew. -/
def takePending (w : Watcher) : List Text × Watcher :=
  (Text.sort w.pending, { w with pending := [] })

end Watcher

end NestedCss
