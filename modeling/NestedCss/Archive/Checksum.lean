import NestedCss.Text
/-!
# Checksums

The 32-bit cyclic redundancy check that archives keep for each entry.
-/
namespace NestedCss.Archive

/-- One bit of the division by the generator polynomial, lowest bit first. -/
def checksumBit (c : UInt32) : UInt32 :=
  if c &&& 1 == 1 then (c >>> 1) ^^^ 0xEDB88320 else c >>> 1

/-- The remainder after a further byte. -/
def checksumByte (c : UInt32) (b : UInt8) : UInt32 :=
  Nat.repeat checksumBit 8 (c ^^^ b.toUInt32)

/-- The checksum of a text. -/
def checksum (t : Text) : UInt32 := t.foldl checksumByte 0xFFFFFFFF ^^^ 0xFFFFFFFF

end NestedCss.Archive
