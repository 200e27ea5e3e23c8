import NestedCss.Encoding.Charset
import NestedCss.Text.Quoted
/-!
# Decoding sources

The bytes of a source become UTF-8 text. A byte order mark decides the encoding; without one, a
`@charset` statement at the very start does; without either the bytes must be UTF-8 already.
-/
namespace NestedCss

/-! ### Byte order marks -/

/-- The encodings that a byte order mark announces. -/
inductive MarkedEncoding where
  /-- UTF-8. -/
  | utf8
  /-- UTF-16. -/
  | utf16 (order : Encoding.ByteOrder)
  /-- UTF-32. -/
  | utf32 (order : Encoding.ByteOrder)
  deriving DecidableEq, Repr

/-- Why bytes cannot be read as a source. -/
inductive DecodeError where
  /-- The byte order mark that the encoding needs is missing. -/
  | missingMark
  /-- The bytes end inside the byte order mark. -/
  | shortMark
  /-- A `@charset` statement names no known encoding. -/
  | unknownCharset (label : Text)
  /-- The bytes cannot be read in the encoding that a `@charset` statement names. -/
  | unreadable (e : Encoding.Unreadable)
  /-- The bytes are not UTF-8, and nothing says what they are. -/
  | notUtf8

/-- The wording of a decoding error. -/
def DecodeError.message : DecodeError → Text
  | .missingMark => Text.ofString "encoding: missing byte order mark"
  | .shortMark => Text.ofString "transform: short source buffer"
  | .unknownCharset label => Text.ofString "unknown @charset " ++ label.quote
  | .unreadable e =>
    Text.ofString "unable to decode " ++ e.encoding.name ++ Text.ofString " source: " ++ e.reason
  | .notUtf8 =>
    Text.ofString "source is not valid UTF-8, use BOM or @charset to specify encoding"

namespace MarkedEncoding

/-- The name of an encoding. -/
def name : MarkedEncoding → Text
  | .utf8 => Text.ofString "utf8"
  | .utf16 .big => Text.ofString "utf16be"
  | .utf16 .little => Text.ofString "utf16le"
  | .utf32 .big => Text.ofString "utf32be"
  | .utf32 .little => Text.ofString "utf32le"

/-- The byte order mark of an encoding. -/
def mark : MarkedEncoding → Text
  | .utf8 => [0xEF, 0xBB, 0xBF]
  | .utf16 .big => [0xFE, 0xFF]
  | .utf16 .little => [0xFF, 0xFE]
  | .utf32 .big => [0x00, 0x00, 0xFE, 0xFF]
  | .utf32 .little => [0xFF, 0xFE, 0x00, 0x00]

/-- All the encodings; the UTF-32 ones come first, since a mark of UTF-32 starts with one of
UTF-16. -/
def all : List MarkedEncoding :=
  [.utf32 .big, .utf32 .little, .utf8, .utf16 .big, .utf16 .little]

/-- The encoding whose mark stands at the front. -/
def detect? (t : Text) : Option MarkedEncoding := all.find? fun e => t.startsWith e.mark

/-- The byte order whose mark of UTF-16 stands at the front, with what follows the mark. -/
def utf16Order? (t : Text) : Option (Encoding.ByteOrder × Text) :=
  match t with
  | 0xFE :: 0xFF :: r => some (.big, r)
  | 0xFF :: 0xFE :: r => some (.little, r)
  | _ => none

/-- The byte order whose mark of UTF-32 stands at the front, with what follows the mark. -/
def utf32Order? (t : Text) : Option (Encoding.ByteOrder × Text) :=
  match t with
  | 0x00 :: 0x00 :: 0xFE :: 0xFF :: r => some (.big, r)
  | 0xFF :: 0xFE :: 0x00 :: 0x00 :: r => some (.little, r)
  | _ => none

/-- Reads text in an encoding and takes its mark away. The order of bytes is the one the mark tells,
whatever order was expected, and only UTF-8 does without a mark. -/
def decode (e : MarkedEncoding) (t : Text) : Except DecodeError (List Char) :=
  match e with
  | .utf8 => .ok (Encoding.Utf8.decode ((t.dropPrefix? (mark .utf8)).getD t))
  | .utf16 _ =>
    match utf16Order? t with
    | some (order, r) => .ok (Encoding.Utf16.decode order r)
    | none => .error .missingMark
  | .utf32 _ =>
    match utf32Order? t with
    | some (order, r) => .ok (Encoding.Utf32.decode order r)
    | none => .error (if t.isEmpty || 4 ≤ t.length then .missingMark else .shortMark)

end MarkedEncoding

/-! ### Character set statements -/

/-- How a `@charset` statement starts. -/
def charsetStart : Text := Text.ofString "@charset \""

/-- The label of the `@charset` statement at the very start, and the length of the statement with
its semicolon. -/
def leadingCharset? (t : Text) : Option (Text × Nat) := do
  let rest ← t.dropPrefix? charsetStart
  let label := rest.takeWhile (· != Byte.doubleQuote)
  match rest.drop label.length with
  | Byte.doubleQuote :: Byte.semicolon :: _ => some (label, charsetStart.length + label.length + 2)
  | _ => none

/-! ### Sources -/

/-- The UTF-8 text of the bytes of a source, where `read` reads the encodings that labels name. A
`@charset` statement that names another encoding is dropped with the line ends behind it, since the
text is UTF-8 from here on. -/
def decodeSourceWith (read : Encoding.Charset → Text → Except Encoding.Unreadable (List Char))
    (t : Text) : Except DecodeError Text :=
  let plain : Except DecodeError Text := if Utf8.isValid t then .ok t else .error .notUtf8
  match MarkedEncoding.detect? t with
  | some e => (e.decode t).map Utf8.encode
  | none =>
    match leadingCharset? t with
    | none => plain
    | some (label, n) =>
      match Encoding.Charset.ofLabel? label with
      | none => .error (.unknownCharset label)
      | some charset =>
        if charset.isUtf8 then plain
        else match read charset (t.drop n) with
          | .error e => .error (.unreadable e)
          | .ok s => .ok ((Utf8.encode s).trimLeftBy
            fun c => c == Byte.carriageReturn || c == Byte.lineFeed)

/-- The UTF-8 text of the bytes of a source, where `foreign` reads the double-byte encodings. -/
def decodeSource (foreign : Encoding.DoubleByte.Reader) (t : Text) : Except DecodeError Text :=
  decodeSourceWith (Encoding.Charset.decode foreign) t

end NestedCss
