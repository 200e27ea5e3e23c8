import NestedCss.Archive.Container
import NestedCss.FileTree
import NestedCss.Text.Quoted
/-!
# Archives of sources

Sources may be packed into archives. An entry of an archive is named by the path of the archive with
the name of the entry behind it. An archive with a name that would lead out of it is refused as a
whole.
-/
namespace NestedCss.Archive

/-! ### Names of entries -/

/-- The path of an entry of the archive at a path. -/
def entryPath (archive name : Text) : Text := Path.join archive name

/-- Whether a name stays inside its archive: it is not absolute and has no component that leads up.
Both kinds of slashes divide components. -/
def isSafeName (name : Text) : Bool :=
  !Path.isAbsolute name && name.head? != some Byte.backslash
    && (Text.splitOn Byte.slash (name.replaceByte Byte.backslash [Byte.slash])).all (· != Path.up)

/-! ### Members -/

/-- A member of an archive, as it is found in the directory of the archive. -/
structure Member where
  /-- The name. -/
  name : Text
  /-- Whether it is a directory. -/
  isDirectory : Bool
  /-- What is in it. -/
  content : Except ContainerError Text

/-- The members of the archive that a text is. -/
def members (t : Text) : Except ContainerError (List Member) :=
  match directory? t with
  | some (lines, body) => .ok (lines.map fun l => ⟨l.name, l.isDirectory, l.content body⟩)
  | none => .error .malformed

/-- The error that keeps a member from being opened at all. -/
def Member.closed? (m : Member) : Option ContainerError :=
  match m.content with
  | .error .malformed => some .malformed
  | .error .unsupported => some .unsupported
  | _ => none

/-! ### Walking -/

/-- Why a walk through an archive ends early; `ε` are the errors of the visitor. -/
inductive WalkError (ε : Type) where
  /-- A name leads out of the archive. -/
  | unsafeName (name : Text)
  /-- A member cannot be opened. -/
  | closed (archive name : Text) (e : ContainerError)
  /-- The visitor failed. -/
  | visitor (e : ε)

/-- The wording of an error. -/
def WalkError.message {ε : Type} (wording : ε → Text) : WalkError ε → Text
  | unsafeName name =>
    Text.ofString "zip entry " ++ name.quote
      ++ Text.ofString ": unsafe path (absolute or contains path traversal)"
  | closed archive name e =>
    Text.ofString "unable to open " ++ name ++ Text.ofString " in " ++ archive ++ Text.ofString ": "
      ++ e.message
  | visitor e => wording e

/-- Passes members to a visitor, one after the other, until it fails. -/
def visitAll {σ ε : Type} (archive : Text) (visit : σ → Member → σ × Option ε) :
    σ → List Member → σ × Option (WalkError ε)
  | s, [] => (s, none)
  | s, m :: more =>
    match m.closed? with
    | some e => (s, some (.closed archive m.name e))
    | none =>
      match visit s m with
      | (s, some e) => (s, some (.visitor e))
      | (s, none) => visitAll archive visit s more

/-- Passes the members of an archive that are files and have an accepted name to a visitor, in the
order of the archive, until it fails; none if some name is unsafe. -/
def walk {σ ε : Type} (archive : Text) (ms : List Member) (accept : Text → Bool)
    (visit : σ → Member → σ × Option ε) (s : σ) : σ × Option (WalkError ε) :=
  match ms.find? fun m => !isSafeName m.name with
  | some m => (s, some (.unsafeName m.name))
  | none => visitAll archive visit s (ms.filter fun m => !m.isDirectory && accept m.name)

/-! ### Recognising -/

/-- Whether a text starts as an archive does. -/
def hasMark (t : Text) : Bool :=
  match t with
  | 0x50 :: 0x4B :: a :: b :: _ => [0x03, 0x05, 0x07].contains a && [0x04, 0x06, 0x08].contains b
  | _ => false

/-- Whether the file at a path is an archive, by its first bytes. -/
def isArchive (t : FileTree) (p : Text) : Except FileError Bool := (t.read p).map hasMark

end NestedCss.Archive
