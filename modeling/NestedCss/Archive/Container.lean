import NestedCss.Archive.Checksum
import NestedCss.Archive.Deflate
/-!
# Archive files

An archive file holds its entries one after the other, and at its end a directory that tells where
each of them is. Numbers are written with the lowest byte first.
-/
namespace NestedCss.Archive

/-- An entry of an archive. A directory has a name that ends in a slash. -/
structure Entry where
  /-- The name, with slashes between its components. -/
  name : Text
  /-- The content. -/
  data : Text
  deriving DecidableEq, Repr

/-- Why an archive cannot be read. -/
inductive ContainerError where
  /-- It is no archive. -/
  | malformed
  /-- An entry is compressed in an unknown way. -/
  | unsupported
  /-- The compressed data of an entry is broken. -/
  | corrupt
  /-- The content of an entry does not have its checksum. -/
  | mismatch
  deriving DecidableEq, Repr

/-- The wording of an error. -/
def ContainerError.message : ContainerError → Text
  | malformed => Text.ofString "zip: not a valid zip file"
  | unsupported => Text.ofString "zip: unsupported compression algorithm"
  | corrupt => Text.ofString "flate: corrupt input before offset 0"
  | mismatch => Text.ofString "zip: checksum error"

/-! ### Numbers -/

/-- A number in `width` bytes. -/
def numberBytes : Nat → Nat → Text
  | 0, _ => []
  | width + 1, n => n.toUInt8 :: numberBytes width (n / 256)

/-- The number that bytes are. -/
def bytesNumber (t : Text) : Nat := t.foldr (fun b n => 256 * n + b.toNat) 0

/-- The number in the `width` bytes at an offset. -/
def numberAt (t : Text) (off width : Nat) : Nat := bytesNumber ((t.drop off).take width)

/-- The start of an entry. -/
def entryMark : Text := [0x50, 0x4B, 0x03, 0x04]

/-- The start of what follows the data of an entry. -/
def descriptorMark : Text := [0x50, 0x4B, 0x07, 0x08]

/-- The start of a line of the directory. -/
def directoryMark : Text := [0x50, 0x4B, 0x01, 0x02]

/-- The start of the end of an archive. -/
def endMark : Text := [0x50, 0x4B, 0x05, 0x06]

/-- The size of the end of an archive. -/
def endSize : Nat := 22

/-! ### Writing -/

/-- Whether an entry is a directory by its name. -/
def Entry.isDirectory (e : Entry) : Bool := e.name.getLast? == some Byte.slash

/-- The bytes of an entry, and its line of the directory if it starts at an offset. -/
def Entry.write (e : Entry) (off : Nat) : Text × Text :=
  let packed := if e.isDirectory then [] else deflate e.data
  let size := if e.isDirectory then 0 else e.data.length
  let sum := (checksum (if e.isDirectory then [] else e.data)).toNat
  let flags := if e.isDirectory then 0x800 else 0x808
  let method := if e.isDirectory then 0 else 8
  let common := numberBytes 2 20 ++ numberBytes 2 flags ++ numberBytes 2 method ++ numberBytes 4 0
  let sizes := numberBytes 4 sum ++ numberBytes 4 packed.length ++ numberBytes 4 size
  let name := numberBytes 2 e.name.length ++ numberBytes 2 0
  (entryMark ++ common ++ numberBytes 12 0 ++ name ++ e.name ++ packed
      ++ (if e.isDirectory then [] else descriptorMark ++ sizes),
    directoryMark ++ numberBytes 2 20 ++ common ++ sizes ++ name ++ numberBytes 10 0
      ++ numberBytes 4 off ++ e.name)

/-- The bytes of entries from an offset on, and their lines of the directory. -/
def writeEntries : Nat → List Entry → Text × Text
  | _, [] => ([], [])
  | off, e :: es =>
    let (bytes, line) := e.write off
    let (more, lines) := writeEntries (off + bytes.length) es
    (bytes ++ more, line ++ lines)

/-- The archive file with these entries. -/
def write (es : List Entry) : Text :=
  let (bytes, directory) := writeEntries 0 es
  bytes ++ directory ++ endMark ++ numberBytes 4 0 ++ numberBytes 2 es.length
    ++ numberBytes 2 es.length ++ numberBytes 4 directory.length ++ numberBytes 4 bytes.length
    ++ numberBytes 2 0

/-! ### Reading -/

/-- The last place in a text where the end of an archive can start: its offset, and the text from
there on. -/
def lastEnd? : Option (Nat × Text) → Nat → Text → Option (Nat × Text)
  | found, _, [] => found
  | found, off, c :: r =>
    let isEnd := Text.startsWith (c :: r) endMark && endSize ≤ (c :: r).length
    lastEnd? (if isEnd then some (off, c :: r) else found) (off + 1) r

/-- A line of the directory. -/
structure DirectoryLine where
  /-- The name of the entry. -/
  name : Text
  /-- Whether the entry is a directory. -/
  isDirectory : Bool
  /-- How it is compressed. -/
  method : Nat
  /-- The checksum of its content. -/
  sum : Nat
  /-- The size of its compressed data. -/
  packed : Nat
  /-- The offset of the entry. -/
  off : Nat

/-- The lines at the start of a directory. -/
def directoryLines : Nat → Text → List DirectoryLine
  | 0, _ => []
  | fuel + 1, t =>
    let name := (t.drop 46).take (numberAt t 28 2)
    if Text.startsWith t directoryMark && 46 ≤ t.length && name.length == numberAt t 28 2 then
      let attributes := numberAt t 38 4
      let isDirectory := match numberAt t 5 1 with
        | 3 | 19 => attributes / 65536 / 4096 == 4
        | 0 | 11 | 14 => attributes / 16 % 2 == 1
        | _ => false
      { name
        isDirectory := isDirectory || name.getLast? == some Byte.slash
        method := numberAt t 10 2
        sum := numberAt t 16 4
        packed := numberAt t 20 4
        off := numberAt t 42 4 }
        :: directoryLines fuel (t.drop (46 + name.length + numberAt t 30 2 + numberAt t 32 2))
    else []

/-- The content of the entry of a line. -/
def DirectoryLine.content (l : DirectoryLine) (t : Text) : Except ContainerError Text :=
  let head := t.drop l.off
  if !Text.startsWith head entryMark then .error .malformed
  else
    let packed := (head.drop (30 + numberAt head 26 2 + numberAt head 28 2)).take l.packed
    match l.method with
    | 0 => verified packed
    | 8 =>
      match inflate? packed with
      | some data => verified data
      | none => .error .corrupt
    | _ => .error .unsupported
where
  /-- The content, if it has the checksum. -/
  verified (data : Text) : Except ContainerError Text :=
    if (checksum data).toNat == l.sum then .ok data else .error .mismatch

/-- The lines of the directory of an archive file, with the part of the file that offsets count
from. -/
def directory? (t : Text) : Option (List DirectoryLine × Text) := do
  let (start, tail) ← lastEnd? none 0 t
  let length := numberAt tail 12 4
  let off := numberAt tail 16 4
  if tail.length < endSize + numberAt tail 20 2 || start < length + off then none
  else
    let base := start - length - off
    let lines := directoryLines (length + 1) (t.drop (base + off))
    if lines.length % 65536 == numberAt tail 10 2 then some (lines, t.drop base) else none

end NestedCss.Archive
