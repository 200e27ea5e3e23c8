import NestedCss.Encoding
import NestedCss.Encoding.Table
import NestedCss.Text.CaseMap
import NestedCss.Text.Space
/-!
# Character sets by label

The labels by which documents of the web name their encoding. Several labels name one encoding, and
some name a later encoding that contains the one they spell: `iso-8859-1` is the Windows code page
1252.

The tables of the East Asian encodings are not part of the library: whoever decodes brings a reader
for them along (`DoubleByte.Reader`).
-/
namespace NestedCss.Encoding

/-! ### Double-byte encodings -/

/-- The encodings that write a character of their own in two bytes or more. -/
inductive DoubleByte where
  /-- GBK, with all the labels of GB 2312. -/
  | gbk
  /-- GB 18030. -/
  | gb18030
  /-- Big5. -/
  | big5
  /-- EUC-JP. -/
  | eucJp
  /-- ISO-2022-JP. -/
  | iso2022Jp
  /-- Shift JIS. -/
  | shiftJis
  /-- EUC-KR. -/
  | eucKr
  deriving DecidableEq, Repr

namespace DoubleByte

/-- The name of an encoding. -/
def name : DoubleByte → Text
  | gbk => Text.ofString "gbk"
  | gb18030 => Text.ofString "gb18030"
  | big5 => Text.ofString "big5"
  | eucJp => Text.ofString "euc-jp"
  | iso2022Jp => Text.ofString "iso-2022-jp"
  | shiftJis => Text.ofString "shift_jis"
  | eucKr => Text.ofString "euc-kr"

/-- A reader of these encodings: the characters of a text, or why it cannot read them. -/
abbrev Reader := DoubleByte → Text → Except Text (List Char)

/-- Whether a byte stands for the ASCII character in all of the encodings, whatever is around it.
Escape, shift out and shift in do not in ISO-2022-JP. -/
def isShared (b : UInt8) : Bool := Byte.isAscii b && b != 0x0E && b != 0x0F && b != 0x1B

/-- The reader of a program without tables. It reads the texts that are the same in all of the
encodings and refuses the others. -/
def readShared : Reader := fun _ t =>
  if t.all isShared then .ok (t.map fun b => Char.ofNat b.toNat)
  else .error (Text.ofString "no table for this encoding")

end DoubleByte

/-- Why a text in an encoding cannot be read. -/
structure Unreadable where
  /-- The encoding. -/
  encoding : DoubleByte
  /-- What its reader says. -/
  reason : Text

/-! ### Labels -/

/-- The encodings a label can name. -/
inductive Charset where
  /-- UTF-8. -/
  | utf8
  /-- UTF-16 without a mark. -/
  | utf16 (order : ByteOrder)
  /-- A single-byte encoding. -/
  | table (high : List Nat)
  /-- ASCII, with the bytes from 0x80 on in the private use area. -/
  | userDefined
  /-- A double-byte encoding. -/
  | doubleByte (encoding : DoubleByte)
  /-- An encoding that is never decoded: all of it is one replacement character. -/
  | refused

namespace Charset

/-- The encodings with their labels. -/
def labels : List (Charset × List String) := [
  (.utf8, ["unicode-1-1-utf-8", "utf-8", "utf8"]),
  (.table Table.ibm866, ["866", "cp866", "csibm866", "ibm866"]),
  (.table Table.iso2, ["csisolatin2", "iso-8859-2", "iso-ir-101", "iso8859-2", "iso88592",
    "iso_8859-2", "iso_8859-2:1987", "l2", "latin2"]),
  (.table Table.iso3, ["csisolatin3", "iso-8859-3", "iso-ir-109", "iso8859-3", "iso88593",
    "iso_8859-3", "iso_8859-3:1988", "l3", "latin3"]),
  (.table Table.iso4, ["csisolatin4", "iso-8859-4", "iso-ir-110", "iso8859-4", "iso88594",
    "iso_8859-4", "iso_8859-4:1988", "l4", "latin4"]),
  (.table Table.iso5, ["csisolatincyrillic", "cyrillic", "iso-8859-5", "iso-ir-144", "iso8859-5",
    "iso88595", "iso_8859-5", "iso_8859-5:1988"]),
  (.table Table.iso6, ["arabic", "asmo-708", "csiso88596e", "csiso88596i", "csisolatinarabic",
    "ecma-114", "iso-8859-6", "iso-8859-6-e", "iso-8859-6-i", "iso-ir-127", "iso8859-6", "iso88596",
    "iso_8859-6", "iso_8859-6:1987"]),
  (.table Table.iso7, ["csisolatingreek", "ecma-118", "elot_928", "greek", "greek8", "iso-8859-7",
    "iso-ir-126", "iso8859-7", "iso88597", "iso_8859-7", "iso_8859-7:1987", "sun_eu_greek"]),
  (.table Table.iso8, ["csiso88598e", "csisolatinhebrew", "hebrew", "iso-8859-8", "iso-8859-8-e",
    "iso-ir-138", "iso8859-8", "iso88598", "iso_8859-8", "iso_8859-8:1988", "visual", "csiso88598i",
    "iso-8859-8-i", "logical"]),
  (.table Table.iso10, ["csisolatin6", "iso-8859-10", "iso-ir-157", "iso8859-10", "iso885910", "l6",
    "latin6"]),
  (.table Table.iso13, ["iso-8859-13", "iso8859-13", "iso885913"]),
  (.table Table.iso14, ["iso-8859-14", "iso8859-14", "iso885914"]),
  (.table Table.iso15, ["csisolatin9", "iso-8859-15", "iso8859-15", "iso885915", "iso_8859-15",
    "l9"]),
  (.table Table.iso16, ["iso-8859-16"]),
  (.table Table.koi8r, ["cskoi8r", "koi", "koi8", "koi8-r", "koi8_r"]),
  (.table Table.koi8u, ["koi8-ru", "koi8-u"]),
  (.table Table.macintosh, ["csmacintosh", "mac", "macintosh", "x-mac-roman"]),
  (.table Table.windows874, ["dos-874", "iso-8859-11", "iso8859-11", "iso885911", "tis-620",
    "windows-874"]),
  (.table Table.windows1250, ["cp1250", "windows-1250", "x-cp1250"]),
  (.table Table.windows1251, ["cp1251", "windows-1251", "x-cp1251"]),
  (.table Table.windows1252, ["ansi_x3.4-1968", "ascii", "cp1252", "cp819", "csisolatin1", "ibm819",
    "iso-8859-1", "iso-ir-100", "iso8859-1", "iso88591", "iso_8859-1", "iso_8859-1:1987", "l1",
    "latin1", "us-ascii", "windows-1252", "x-cp1252"]),
  (.table Table.windows1253, ["cp1253", "windows-1253", "x-cp1253"]),
  (.table Table.windows1254, ["cp1254", "csisolatin5", "iso-8859-9", "iso-ir-148", "iso8859-9",
    "iso88599", "iso_8859-9", "iso_8859-9:1989", "l5", "latin5", "windows-1254", "x-cp1254"]),
  (.table Table.windows1255, ["cp1255", "windows-1255", "x-cp1255"]),
  (.table Table.windows1256, ["cp1256", "windows-1256", "x-cp1256"]),
  (.table Table.windows1257, ["cp1257", "windows-1257", "x-cp1257"]),
  (.table Table.windows1258, ["cp1258", "windows-1258", "x-cp1258"]),
  (.table Table.macCyrillic, ["x-mac-cyrillic", "x-mac-ukrainian"]),
  (.doubleByte .gbk, ["chinese", "csgb2312", "csiso58gb231280", "gb2312", "gb_2312", "gb_2312-80",
    "gbk", "iso-ir-58", "x-gbk"]),
  (.doubleByte .gb18030, ["gb18030"]),
  (.doubleByte .big5, ["big5", "big5-hkscs", "cn-big5", "csbig5", "x-x-big5"]),
  (.doubleByte .eucJp, ["cseucpkdfmtjapanese", "euc-jp", "x-euc-jp"]),
  (.doubleByte .iso2022Jp, ["csiso2022jp", "iso-2022-jp"]),
  (.doubleByte .shiftJis, ["csshiftjis", "ms932", "ms_kanji", "shift-jis", "shift_jis", "sjis",
    "windows-31j", "x-sjis"]),
  (.doubleByte .eucKr, ["cseuckr", "csksc56011987", "euc-kr", "iso-ir-149", "korean",
    "ks_c_5601-1987", "ks_c_5601-1989", "ksc5601", "ksc_5601", "windows-949"]),
  (.refused, ["csiso2022kr", "hz-gb-2312", "iso-2022-cn", "iso-2022-cn-ext", "iso-2022-kr"]),
  (.utf16 .big, ["utf-16be"]),
  (.utf16 .little, ["utf-16", "utf-16le"]),
  (.userDefined, ["x-user-defined"])]

/-- The encoding that a label names, in any case and with blanks around it. -/
def ofLabel? (label : Text) : Option Charset :=
  let wanted := label.trimSpace.toLower
  (labels.find? fun entry => entry.2.any fun l => Text.ofString l == wanted).map (·.1)

/-- The character of a byte of an encoding that reads each byte on its own: `high` gives the code
point of a byte from 0x80 on. -/
def charOfByte (high : UInt8 → Nat) (b : UInt8) : Char :=
  if b < 0x80 then Char.ofNat b.toNat else scalar (high b)

/-- The characters of a text in an encoding, where `foreign` reads the double-byte ones. -/
def decode (foreign : DoubleByte.Reader) (charset : Charset) (t : Text) :
    Except Unreadable (List Char) :=
  match charset with
  | .utf8 => .ok (Utf8.decode t)
  | .utf16 order => .ok (Utf16.decode order t)
  | .table high => .ok (t.map (charOfByte fun b => high.getD (b.toNat - 0x80) 0xFFFD))
  | .userDefined => .ok (t.map (charOfByte fun b => b.toNat - 0x80 + 0xF780))
  | .doubleByte encoding => (foreign encoding t).mapError (⟨encoding, ·⟩)
  | .refused => .ok [Symbol.replacement]

/-- Whether an encoding is UTF-8. -/
def isUtf8 : Charset → Bool
  | .utf8 => true
  | _ => false

end Charset

end NestedCss.Encoding
