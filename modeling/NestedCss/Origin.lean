import NestedCss.CompileError
import NestedCss.Path
import NestedCss.Text.CaseMap
import NestedCss.Text.Quoted
import NestedCss.Text.Space
/-!
# Origins of compiled text

A source comes from a file, from an archive or from standard input, and its path is how errors and
comments in the output name it.
-/
namespace NestedCss

/-! ### Where a source comes from -/

/-- Where the text of a source comes from. -/
inductive Origin where
  /-- A file. -/
  | file
  /-- An entry of an archive. -/
  | archive
  /-- Standard input. -/
  | stdin
  deriving DecidableEq, Repr

namespace Origin

/-- The name of an origin. -/
def name : Origin → Text
  | .file => Text.ofString "file"
  | .archive => Text.ofString "archive"
  | .stdin => Text.ofString "stdin"

/-- The origin with a number. -/
def ofCode? : Int → Option Origin
  | 0 => some .file
  | 1 => some .archive
  | 2 => some .stdin
  | _ => none

/-- The name of the origin with a number; a number without origin is shown as it is. -/
def nameOfCode (n : Int) : Text :=
  match ofCode? n with
  | some o => o.name
  | none => Text.ofString "SourceKind(" ++ Text.ofInt n ++ Text.ofString ")"

/-- How standard input is named in messages and comments. -/
def stdinPath : Text := Text.ofString "<stdin>"

end Origin

/-- A style sheet to compile. -/
structure SourceFile where
  /-- Where it comes from. -/
  origin : Origin
  /-- The path it is named by; an archive's entry has the path of the archive in front. -/
  path : Text
  /-- Its text, in UTF-8. -/
  text : Text

/-! ### Comments that name a source -/

/-- Which comment stands in front of the output of each source. -/
inductive FilenameTag where
  /-- None. -/
  | none
  /-- The path of the source. -/
  | full
  /-- The path of the source from the directory that all sources share. -/
  | relative
  deriving DecidableEq, Repr

/-- A text that names no kind of comment. -/
structure TagError where
  /-- The text. -/
  text : Text

namespace FilenameTag

/-- The name of a kind of comment. -/
def name : FilenameTag → Text
  | .none => Text.ofString "none"
  | .full => Text.ofString "full"
  | .relative => Text.ofString "relative"

/-- All the kinds, in the order of their numbers. -/
def all : List FilenameTag := [.none, .full, .relative]

/-- All the names. -/
def names : List Text := all.map name

/-- The number of a kind. -/
def code : FilenameTag → Nat
  | .none => 0
  | .full => 1
  | .relative => 2

/-- The name of the kind with a number; a number without a kind is shown as it is. -/
def nameOfCode (n : Int) : Text :=
  match all.find? fun t => (t.code : Int) == n with
  | some t => t.name
  | Option.none => Text.ofString "FilenameTag(" ++ Text.ofInt n ++ Text.ofString ")"

/-- Reads the name of a kind, in any case and with blanks around it. -/
def parse (t : Text) : Except TagError FilenameTag :=
  match all.find? fun tag => tag.name.equalFold t.trimSpace with
  | some tag => .ok tag
  | Option.none => .error ⟨t⟩

end FilenameTag

/-- The wording of the error. -/
def TagError.message (e : TagError) : Text :=
  e.text.quote ++ Text.ofString " is not a valid FilenameTag, try ["
    ++ Text.join (Text.ofString ", ") FilenameTag.names ++ Text.ofString "]"

/-- A text that may stand in a comment: the mark that closes one is broken up. -/
def Text.uncomment (t : Text) : Text := t.replaceAll (Text.ofString "*/") (Text.ofString "*_/")

/-- What the comment in front of a source's output says; `base` is the directory that all sources
share. No comment is said by an empty text. -/
def FilenameTag.label (tag : FilenameTag) (source : SourceFile) (base : Text) : Text :=
  match tag, source.origin with
  | .none, _ => []
  | _, .stdin => Origin.stdinPath.uncomment
  | .relative, _ => ((Path.relative? base source.path).getD source.path).uncomment
  | .full, _ => source.path.uncomment

/-! ### Errors of a source -/

/-- What is wrong with a source. -/
inductive SourceCause where
  /-- It does not compile. -/
  | compile (e : CompileError)
  /-- Anything else. -/
  | other (text : Text)

/-- The wording of a cause. -/
def SourceCause.message : SourceCause → Text
  | .compile e => e.message
  | .other t => t

/-- An error in a source. -/
structure SourceError where
  /-- The path of the source. -/
  path : Text
  /-- What is wrong. -/
  cause : SourceCause

/-- The wording of an error in a source; a compile error is told with its place behind the path. -/
def SourceError.message (e : SourceError) : Text :=
  let colon := [Byte.colon]
  match e.cause with
  | .compile c =>
    e.path ++ colon ++ Text.ofInt c.line ++ colon ++ Text.ofInt c.column ++ Text.ofString ": "
      ++ c.fault.message
  | .other t => e.path ++ Text.ofString ": " ++ t

/-! ### Names of files -/

/-- Whether a file's extension is one of `extensions`. The dot of an extension may be left out, and
case does not matter. -/
def hasExtension (path : Text) (extensions : List Text) : Bool :=
  extensions.any fun e =>
    (Path.extension path).equalFold (if e.startsWith [Byte.dot] then e else Byte.dot :: e)

/-- A path as the name of one file: separators become underscores, and dots at the front go. -/
def flatFileName (path : Text) : Text :=
  let flat := Utf8.mapChars (fun c => if c == '/' || c == ':' then '_' else c) path
  let name := flat.trimLeftBy (· == Byte.dot)
  if name.isEmpty then Text.ofString "_unnamed_" else name

/-! ### The output -/

/-- Joins the outputs of the sources: the banner first, and the comment that names each source in
front of its output. A source without output leaves no trace. Pretty output has each part on lines
of its own. -/
def assemble (tag : FilenameTag) (pretty : Bool) (banner : Text)
    (outputs : List (SourceFile × Text)) : Text :=
  let sep := if pretty then [Byte.lineFeed] else []
  let base := Path.commonBase
    ((outputs.filter fun o => o.1.origin != .stdin).map fun o => o.1.path)
  let part (o : SourceFile × Text) : Option Text :=
    if o.2.isEmpty then none
    else
      let label := tag.label o.1 base
      if label.isEmpty then some o.2
      else some (Text.ofString "/* " ++ label ++ Text.ofString " */" ++ sep ++ o.2)
  Text.join sep ((if banner.isEmpty then [] else [banner]) ++ outputs.filterMap part)

end NestedCss
