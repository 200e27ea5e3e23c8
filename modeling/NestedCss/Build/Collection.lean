import NestedCss.Archive
import NestedCss.Build.Settings
import NestedCss.Decoding
import NestedCss.Path.Order
/-!
# Collecting sources

Sources come in the order of the output: standard input, the named files in their order, and then
what the named directories hold, in the order of paths. A path is read once, and neither the output
file nor an excluded path is read.
-/
namespace NestedCss

/-! ### Errors -/

/-- Why the member of an archive cannot be read. -/
inductive MemberError where
  /-- The build was called off. -/
  | cancelled
  /-- The member is broken. -/
  | unreadable (path : Text) (e : Archive.ContainerError)

/-- Why sources cannot be collected. -/
inductive CollectError where
  /-- The build was called off. -/
  | cancelled
  /-- The text of a source cannot be told. -/
  | undecodable (path : Text) (e : DecodeError)
  /-- A file cannot be looked at. -/
  | inaccessible (e : FileError)
  /-- A named file is something else. -/
  | notRegular (path : Text)
  /-- A file that looks like an archive is none. -/
  | notArchive (e : Archive.ContainerError)
  /-- The walk through an archive failed. -/
  | archive (e : Archive.WalkError MemberError)
  /-- A directory cannot be walked. -/
  | unwalkable (e : FileError)
  /-- The walk through a directory was called off. -/
  | walkCancelled

/-- The wording when a build is called off. -/
def cancelledMessage : Text := Text.ofString "context canceled"

/-- The wording of an error. -/
def MemberError.message : MemberError → Text
  | cancelled => cancelledMessage
  | unreadable path e => Text.ofString "unable to read " ++ path ++ Text.ofString ": " ++ e.message

/-- The wording of an error. -/
def CollectError.message : CollectError → Text
  | cancelled => cancelledMessage
  | undecodable path e => path ++ Text.ofString ": " ++ e.message
  | inaccessible e => Text.ofString "unable to access source: " ++ e.message
  | notRegular path => Text.ofString "source is not a regular file: " ++ path
  | notArchive e => Text.ofString "unable to process archive: " ++ e.message
  | archive e => Text.ofString "unable to process archive: " ++ e.message MemberError.message
  | unwalkable e => Text.ofString "unable to walk directory: " ++ e.message
  | walkCancelled => Text.ofString "unable to walk directory: " ++ cancelledMessage

/-! ### Collections -/

/-- What sources are collected from. -/
structure CollectInput where
  /-- The settings of the build. -/
  settings : BuildSettings
  /-- The files. -/
  tree : FileTree
  /-- What standard input holds. -/
  stdin : Text := []
  /-- Whether the build has been called off. -/
  cancelled : Bool := false
  /-- The reader of double-byte encodings. -/
  foreign : Encoding.DoubleByte.Reader

/-- The sources found so far. -/
structure Collection where
  /-- The paths that are not looked at again. -/
  seen : List Text := []
  /-- The sources in their order. -/
  sources : List SourceFile := []

namespace Collection

/-- Whether a path is to be read at all. -/
def accepts (c : Collection) (b : BuildSettings) (path : Text) : Bool :=
  !c.seen.contains path && (b.output.isEmpty || path != b.output) && !b.excludes path

/-- Takes the data at a path as a source. -/
def add (c : Collection) (i : CollectInput) (origin : Origin) (path data : Text) :
    Except CollectError Collection :=
  match decodeSource i.foreign data with
  | .ok text => .ok ⟨path :: c.seen, c.sources ++ [⟨origin, path, text⟩]⟩
  | .error e => .error (.undecodable path e)

/-- Takes a member of an archive along, if its path is to be read. All members are looked at before
any of them is taken as a source. -/
def visitMember (c : Collection) (i : CollectInput) (archive : Text)
    (items : List (Text × Text)) (m : Archive.Member) :
    List (Text × Text) × Option MemberError :=
  let path := Archive.entryPath archive m.name
  if i.cancelled then (items, some .cancelled)
  else if !c.accepts i.settings path then (items, none)
  else match m.content with
    | .ok data => (items ++ [(m.name, data)], none)
    | .error e => (items, some (.unreadable path e))

/-- Takes the matching members of an archive as sources, in the order of their names. -/
def addArchive (c : Collection) (i : CollectInput) (path data : Text) :
    Except CollectError Collection :=
  match Archive.members data with
  | .error e => .error (.notArchive e)
  | .ok ms =>
    match Archive.walk path ms (hasExtension · i.settings.extensions)
        (c.visitMember i path) [] with
    | (_, some e) => .error (.archive e)
    | (items, none) =>
      (Path.sortBy Prod.fst [Byte.slash] items).foldlM
        (fun c item => c.add i .archive (Archive.entryPath path item.1) item.2) c

/-- Takes a file as a source, or the matching members of an archive. A file that was not named by
itself is passed over if it is neither. -/
def addFile (c : Collection) (i : CollectInput) (named : Bool) (path : Text) :
    Except CollectError Collection :=
  if i.cancelled then .error .cancelled
  else if !c.accepts i.settings path then .ok c
  else match i.tree.stat path with
    | .error e => .error (.inaccessible e)
    | .ok .directory | .ok (.link _) => .error (.notRegular path)
    | .ok (.file data) =>
      if hasExtension path i.settings.extensions then c.add i .file path data
      else if Archive.hasMark data then addArchive { c with seen := path :: c.seen } i path data
      else if named then c.add i .file path data
      else .ok c

/-- Whether a node is a regular file. -/
def isRegular : FileNode → Bool
  | .file _ => true
  | _ => false

/-- The regular files below a directory, in the order of their paths. -/
def filesIn (t : FileTree) (directory : Text) : Except FileError (List Text) :=
  (t.walk directory).map fun found =>
    Path.sortBy (fun p => (p.dropPrefix? directory).getD p) [Byte.slash]
      ((found.filter fun f => isRegular f.2).map fun f => FileTree.extend directory f.1)

/-- Takes the matching files below a directory as sources. -/
def addDirectory (c : Collection) (i : CollectInput) (directory : Text) :
    Except CollectError Collection :=
  if i.cancelled then .error .walkCancelled
  else match filesIn i.tree directory with
    | .error e => .error (.unwalkable e)
    | .ok paths => paths.foldlM (fun c path => c.addFile i false path) c

/-- Takes standard input as a source, if the settings ask for it. -/
def addStdin (c : Collection) (i : CollectInput) : Except CollectError Collection :=
  if i.settings.stdin then c.add i .stdin Origin.stdinPath i.stdin else .ok c

end Collection

/-- The sources of a build, in the order of the output. -/
def collectSources (i : CollectInput) : Except CollectError (List SourceFile) := do
  let c ← Collection.addStdin {} i
  let c ← i.settings.files.foldlM (fun c path => c.addFile i true path) c
  let c ← i.settings.directories.foldlM (fun c directory => c.addDirectory i directory) c
  return c.sources

end NestedCss
