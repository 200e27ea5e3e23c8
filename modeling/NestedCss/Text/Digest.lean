import NestedCss.Text
/-!
# Digests

The 64-bit XXH64 digest with seed zero. It names compiled texts and declaration lists in look-up
tables; nothing depends on two texts having different digests.
-/
namespace NestedCss.Digest

/-- The five odd multipliers of the mixing steps. -/
abbrev prime1 : UInt64 := 0x9E3779B185EBCA87
/-- Second multiplier. -/
abbrev prime2 : UInt64 := 0xC2B2AE3D27D4EB4F
/-- Third multiplier. -/
abbrev prime3 : UInt64 := 0x165667B19E3779F9
/-- Fourth multiplier. -/
abbrev prime4 : UInt64 := 0x85EBCA77C2B2AE63
/-- Fifth multiplier. -/
abbrev prime5 : UInt64 := 0x27D4EB2F165667C5

/-- A word rotated left. -/
def rotate (x : UInt64) (n : UInt64) : UInt64 := (x <<< n) ||| (x >>> (64 - n))

/-- The first `n` bytes of a text as a little-endian word. -/
def word (n : Nat) (t : Text) : UInt64 :=
  (t.take n).foldr (fun b w => (w <<< 8) ||| b.toUInt64) 0

/-- One accumulator after eight bytes of input. -/
def round (acc input : UInt64) : UInt64 := rotate (acc + input * prime2) 31 * prime1

/-- One accumulator folded into the digest. -/
def mergeRound (digest acc : UInt64) : UInt64 := (digest ^^^ round 0 acc) * prime1 + prime4

/-- The four accumulators of the striped part. -/
structure Lanes where
  /-- First accumulator. -/
  a : UInt64
  /-- Second accumulator. -/
  b : UInt64
  /-- Third accumulator. -/
  c : UInt64
  /-- Fourth accumulator. -/
  d : UInt64

namespace Lanes

/-- The accumulators before any input. -/
def start : Lanes := ⟨prime1 + prime2, prime2, 0, 0 - prime1⟩

/-- The accumulators after the next 32 bytes. -/
def stripe (v : Lanes) (t : Text) : Lanes :=
  ⟨round v.a (word 8 t), round v.b (word 8 (t.drop 8)), round v.c (word 8 (t.drop 16)),
    round v.d (word 8 (t.drop 24))⟩

/-- The accumulators after `n` stripes, and the text behind them. -/
def stripes (v : Lanes) : Nat → Text → Lanes × Text
  | 0, t => (v, t)
  | n + 1, t => stripes (v.stripe t) n (t.drop 32)

/-- The digest of the accumulators. -/
def join (v : Lanes) : UInt64 :=
  let h := rotate v.a 1 + rotate v.b 7 + rotate v.c 12 + rotate v.d 18
  mergeRound (mergeRound (mergeRound (mergeRound h v.a) v.b) v.c) v.d

end Lanes

/-- The digest after the next `n` groups of eight bytes, and the text behind them. -/
def wide (h : UInt64) : Nat → Text → UInt64 × Text
  | 0, t => (h, t)
  | n + 1, t => wide (rotate (h ^^^ round 0 (word 8 t)) 27 * prime1 + prime4) n (t.drop 8)

/-- The digest after a group of four bytes, where there is one. -/
def narrow (h : UInt64) (t : Text) : UInt64 × Text :=
  if t.length < 4 then (h, t)
  else (rotate (h ^^^ (word 4 t * prime1)) 23 * prime2 + prime3, t.drop 4)

/-- The digest after one byte. -/
def single (h : UInt64) (b : UInt8) : UInt64 := rotate (h ^^^ (b.toUInt64 * prime5)) 11 * prime1

/-- The last mixing, after which every input bit reaches every output bit. -/
def avalanche (h : UInt64) : UInt64 :=
  let h := (h ^^^ (h >>> 33)) * prime2
  let h := (h ^^^ (h >>> 29)) * prime3
  h ^^^ (h >>> 32)

/-- The XXH64 digest of a text with seed zero. -/
def xxh64 (t : Text) : UInt64 :=
  let (v, tail) := Lanes.start.stripes (t.length / 32) t
  let h := if t.length < 32 then prime5 else v.join
  let (h, tail) := wide (h + t.length.toUInt64) (tail.length / 8) tail
  let (h, tail) := narrow h tail
  avalanche (tail.foldl single h)

end NestedCss.Digest
