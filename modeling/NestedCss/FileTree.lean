import NestedCss.Path
/-!
# File trees

A file tree holds files, directories and symbolic links by their absolute paths. Programs look at it
and change it through the operations below, which fail the way the calls of an operating system
fail: with the name of the operation, the path it was given, and the cause.
-/
namespace NestedCss

/-- What a path leads to. -/
inductive FileNode where
  /-- A regular file with its content. -/
  | file (data : Text)
  /-- A directory. -/
  | directory
  /-- A symbolic link. -/
  | link (target : Text)
  deriving DecidableEq, Repr

/-- A file tree, seen from a working directory. -/
structure FileTree where
  /-- The nodes by their clean absolute paths. The root is a directory even if it is not among
  them. -/
  nodes : List (Text × FileNode) := []
  /-- The working directory, from which relative paths start. -/
  workDir : Text := [Byte.slash]
  deriving DecidableEq, Repr

/-- Why an operation on a file tree fails. -/
inductive FileCause where
  /-- There is nothing of that name. -/
  | absent
  /-- Something on the way is no directory. -/
  | notDirectory
  /-- A directory cannot be read or written. -/
  | isDirectory
  /-- Links lead in circles. -/
  | tooManyLinks
  /-- Something of that name is there already. -/
  | present
  deriving DecidableEq, Repr

/-- A failed operation. -/
structure FileError where
  /-- The name of the operation. -/
  operation : Text
  /-- The path that it was given. -/
  path : Text
  /-- The cause. -/
  cause : FileCause
  deriving DecidableEq, Repr

/-- The wording of a cause. -/
def FileCause.message : FileCause → Text
  | absent => Text.ofString "no such file or directory"
  | notDirectory => Text.ofString "not a directory"
  | isDirectory => Text.ofString "is a directory"
  | tooManyLinks => Text.ofString "too many levels of symbolic links"
  | present => Text.ofString "file exists"

/-- The wording of an error. -/
def FileError.message (e : FileError) : Text :=
  e.operation ++ [Byte.space] ++ e.path ++ Text.ofString ": " ++ e.cause.message

namespace FileTree

/-- The root. -/
def root : Text := [Byte.slash]

/-- The node at a clean absolute path. -/
def node? (t : FileTree) (p : Text) : Option FileNode :=
  if p == root then some .directory else t.nodes.lookup p

/-! ### Following paths -/

/-- Where the way along the names of a path ends. -/
inductive Stop where
  /-- At a clean absolute path; the node there may be missing. -/
  | at (path : Text) (node : Option FileNode)
  /-- At a link in a directory, with the names that are left. -/
  | link (directory target : Text) (rest : List Text)

/-- The way from a directory along the names of a path. A link at the end is followed if `follow`
tells so. -/
def descend (t : FileTree) (follow : Bool) (here : Text) : List Text → Except FileCause Stop
  | [] => .ok (.at here (t.node? here))
  | name :: rest =>
    match t.node? here with
    | some .directory =>
      if name.isEmpty || name == [Byte.dot] then t.descend follow here rest
      else if name == Path.up then t.descend follow (Path.directory here) rest
      else
        let next := Path.join here name
        match t.node? next with
        | some (.link target) =>
          if rest.isEmpty && !follow then .ok (.at next (some (.link target)))
          else .ok (.link here target rest)
        | some n => if rest.isEmpty then .ok (.at next (some n)) else t.descend follow next rest
        | none => if rest.isEmpty then .ok (.at next none) else .error .absent
    | _ => .error .notDirectory

/-- The names of a path, and the directory that they start from. -/
def start (directory p : Text) : Text × List Text :=
  (if Path.isAbsolute p then root else directory, Text.splitOn Byte.slash p)

/-- The end of a way that leads over at most `links` links. -/
def arrive (t : FileTree) (follow : Bool) : Nat → Text → List Text →
    Except FileCause (Text × Option FileNode)
  | links, here, names =>
    match t.descend follow here names with
    | .error e => .error e
    | .ok (.at p n) => .ok (p, n)
    | .ok (.link directory target rest) =>
      match links with
      | 0 => .error .tooManyLinks
      | links + 1 =>
        let (here, names) := start directory target
        t.arrive follow links here (names ++ rest)

/-- How many links may be followed for one path. -/
def maxLinks : Nat := 40

/-- The clean absolute path that a path leads to, and the node there. -/
def locate (t : FileTree) (follow : Bool) (p : Text) : Except FileCause (Text × Option FileNode) :=
  if p.isEmpty then .error .absent
  else
    let (here, names) := start t.workDir p
    t.arrive follow maxLinks here names

/-- The node that a path leads to, where the operation that asks is named in errors. -/
def nodeFor (t : FileTree) (operation : String) (follow : Bool) (p : Text) :
    Except FileError (Text × FileNode) :=
  match t.locate follow p with
  | .ok (q, some n) => .ok (q, n)
  | .ok (_, none) => .error ⟨Text.ofString operation, p, .absent⟩
  | .error c => .error ⟨Text.ofString operation, p, c⟩

/-! ### Looking -/

/-- The node that a path leads to; links are followed. -/
def stat (t : FileTree) (p : Text) : Except FileError FileNode :=
  (t.nodeFor "stat" true p).map Prod.snd

/-- Whether a path leads to a directory. -/
def isDirectory (t : FileTree) (p : Text) : Bool :=
  match t.stat p with
  | .ok .directory => true
  | _ => false

/-- Whether a path leads to a regular file. -/
def isFile (t : FileTree) (p : Text) : Bool :=
  match t.stat p with
  | .ok (.file _) => true
  | _ => false

/-- The content of the file that a path leads to. -/
def read (t : FileTree) (p : Text) : Except FileError Text :=
  match t.nodeFor "open" true p with
  | .ok (_, .file data) => .ok data
  | .ok _ => .error ⟨Text.ofString "read", p, .isDirectory⟩
  | .error e => .error e

/-- The names that lead from the directory `d` down to `p`. -/
def below? (d p : Text) : Option (List Text) :=
  let parts (q : Text) : List Text := if q == root then [] else (Text.splitOn Byte.slash q).drop 1
  if (parts d).isPrefixOf (parts p) && parts d != parts p then
    some ((parts p).drop (parts d).length)
  else none

/-- The order in which a walk meets what it finds: by names, and a directory before what is in
it. -/
def compareNames : List Text → List Text → Ordering
  | [], [] => .eq
  | [], _ :: _ => .lt
  | _ :: _, [] => .gt
  | a :: r, b :: s => (Text.compareBytes a b).then (compareNames r s)

/-- Everything below a directory, by the names that lead there, in the order of a walk. -/
def inside (t : FileTree) (d : Text) : List (List Text × FileNode) :=
  (t.nodes.filterMap fun (p, n) => (below? d p).map (·, n)).mergeSort
    fun a b => compareNames a.1 b.1 != .gt

/-- The path itself and everything below it, by the names that lead there, in the order of a walk.
Links are not followed. -/
def walk (t : FileTree) (p : Text) : Except FileError (List (List Text × FileNode)) :=
  match t.nodeFor "lstat" false p with
  | .ok (q, .directory) => .ok (([], .directory) :: t.inside q)
  | .ok (_, n) => .ok [([], n)]
  | .error e => .error e

/-- The path behind names that lead from a path down. -/
def extend (p : Text) (names : List Text) : Text := names.foldl Path.join p

/-! ### Changing -/

/-- The nodes with one of them set. -/
def setNode (p : Text) (n : FileNode) : List (Text × FileNode) → List (Text × FileNode)
  | [] => [(p, n)]
  | m :: more => if m.1 == p then (p, n) :: more else m :: setNode p n more

/-- The tree with a node set at a clean absolute path. -/
def set (t : FileTree) (p : Text) (n : FileNode) : FileTree :=
  { t with nodes := setNode p n t.nodes }

/-- Writes a file, which need not exist before. -/
def write (t : FileTree) (p data : Text) : Except FileError FileTree :=
  match t.locate true p with
  | .ok (_, some .directory) => .error ⟨Text.ofString "open", p, .isDirectory⟩
  | .ok (q, _) => .ok (t.set q (.file data))
  | .error c => .error ⟨Text.ofString "open", p, c⟩

/-- The directories from the top down to a path. -/
def ancestors (p : Text) : List Text :=
  let names := Path.components p
  (List.range (names.length + 1)).map fun n => Path.ofComponents (Path.isAbsolute p) (names.take n)

/-- Whether a path is that of a link. -/
def isLink (t : FileTree) (p : Text) : Bool :=
  match t.locate false p with
  | .ok (_, some (.link _)) => true
  | _ => false

/-- Makes one directory, unless it exists. No directory is made at the end of a link. -/
def makeDirectory (t : FileTree) (p : Text) : Except FileError FileTree :=
  match t.locate true p with
  | .ok (_, some .directory) => .ok t
  | .ok (_, some _) => .error ⟨Text.ofString "mkdir", p, .notDirectory⟩
  | .ok (q, none) =>
    if t.isLink p then .error ⟨Text.ofString "mkdir", p, .present⟩ else .ok (t.set q .directory)
  | .error c => .error ⟨Text.ofString "mkdir", p, c⟩

/-- Makes a directory and those above it, unless they exist. -/
def makeDirectories (t : FileTree) (p : Text) : Except FileError FileTree :=
  (ancestors p).foldlM makeDirectory t

/-- Takes away a path and everything below it. -/
def remove (t : FileTree) (p : Text) : FileTree :=
  match t.locate false p with
  | .ok (q, some _) =>
    { t with nodes := t.nodes.filter fun m => m.1 != q && (below? q m.1).isNone }
  | _ => t

end FileTree

end NestedCss
