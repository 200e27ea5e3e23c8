import NestedCss.Text
/-!
# Deflated data

Compressed data is a stream of bits, the lowest bit of each byte first. A block of it holds plain
bytes, or symbols of a prefix code that stand for bytes and for repetitions of earlier output.
Reading understands all blocks; writing uses one block with the fixed code and no repetitions.
-/
namespace NestedCss.Archive

/-- A stream of bits. -/
abbrev Bits := List Bool

/-- The bits of a text. -/
def bitsOf (t : Text) : Bits :=
  t.flatMap fun b => (List.range 8).map fun i => b.toNat.testBit i

/-- The number that bits are, the lowest bit first. -/
def bitsValue (bs : Bits) : Nat := bs.foldr (fun b n => 2 * n + b.toNat) 0

/-- Puts `n` bytes that bits are in front of other bytes, the last first; the last byte is filled
with zeros. -/
def bytesOnto : Nat → Bits → Text → Text
  | 0, _, done => done
  | n + 1, bs, done => bytesOnto n (bs.drop 8) ((bitsValue (bs.take 8)).toUInt8 :: done)

/-- The `n` bytes that bits are. -/
def bytesOf (n : Nat) (bs : Bits) : Text := (bytesOnto n bs []).reverse

/-! ### Prefix codes -/

/-- A prefix code as a tree of bits. -/
inductive CodeTree where
  /-- No symbol. -/
  | vacant
  /-- A symbol. -/
  | symbol (n : Nat)
  /-- The trees behind a zero and behind a one. -/
  | branch (zero one : CodeTree)

namespace CodeTree

/-- The tree with a symbol behind a sequence of bits. -/
def insert (n : Nat) : Bits → CodeTree → CodeTree
  | [], _ => symbol n
  | false :: bs, branch z o => branch (insert n bs z) o
  | true :: bs, branch z o => branch z (insert n bs o)
  | false :: bs, _ => branch (insert n bs vacant) vacant
  | true :: bs, _ => branch vacant (insert n bs vacant)

/-- The first symbol of a stream, and the rest of the stream. -/
def decode? : CodeTree → Bits → Option (Nat × Bits)
  | symbol n, bs => some (n, bs)
  | branch z _, false :: bs => z.decode? bs
  | branch _ o, true :: bs => o.decode? bs
  | _, _ => none

end CodeTree

/-- The number of codes of a length. -/
def countOf (lengths : List Nat) (l : Nat) : Nat := lengths.count l

/-- The first code of a length: codes of one length follow each other, after those that are
shorter. -/
def firstCode (lengths : List Nat) : Nat → Nat
  | 0 => 0
  | l + 1 => 2 * (firstCode lengths l + if l == 0 then 0 else countOf lengths l)

/-- A code as bits, the highest first. -/
def codeBits (length code : Nat) : Bits :=
  ((List.range length).map fun i => code.testBit i).reverse

/-- Adds the codes of symbols to a tree. `next` gives the next code of each length. -/
def addCodes : List Nat → Nat → (Nat → Nat) → CodeTree → CodeTree
  | [], _, _, t => t
  | 0 :: ls, n, next, t => addCodes ls (n + 1) next t
  | l :: ls, n, next, t =>
    addCodes ls (n + 1) (fun k => if k == l then next k + 1 else next k)
      (t.insert n (codeBits l (next l)))

/-- The prefix code with these lengths of the codes of its symbols. -/
def codeOfLengths (lengths : List Nat) : CodeTree :=
  let firsts := (List.range 17).map (firstCode lengths)
  addCodes lengths 0 (fun l => firsts.getD l 0) .vacant

/-! ### Reading -/

/-- A number of `n` bits, and the rest of the stream. -/
def takeBits? (n : Nat) (bs : Bits) : Option (Nat × Bits) :=
  let first := bs.take n
  if first.length == n then some (bitsValue first, bs.drop n) else none

/-- The lengths of the fixed code of bytes and repetitions. -/
def fixedLengths : List Nat :=
  List.replicate 144 8 ++ List.replicate 112 9 ++ List.replicate 24 7 ++ List.replicate 8 8

/-- The fixed code of bytes and repetitions. -/
def fixedCode : CodeTree := codeOfLengths fixedLengths

/-- The fixed code of distances. -/
def fixedDistances : CodeTree := codeOfLengths (List.replicate 30 5)

/-- The base and the number of further bits of the lengths of repetitions. -/
def lengthRanges : List (Nat × Nat) := [
  (3, 0), (4, 0), (5, 0), (6, 0), (7, 0), (8, 0), (9, 0), (10, 0), (11, 1), (13, 1), (15, 1),
  (17, 1), (19, 2), (23, 2), (27, 2), (31, 2), (35, 3), (43, 3), (51, 3), (59, 3), (67, 4), (83, 4),
  (99, 4), (115, 4), (131, 5), (163, 5), (195, 5), (227, 5), (258, 0)]

/-- The base and the number of further bits of the distances of repetitions. -/
def distanceRanges : List (Nat × Nat) := [
  (1, 0), (2, 0), (3, 0), (4, 0), (5, 1), (7, 1), (9, 2), (13, 2), (17, 3), (25, 3), (33, 4),
  (49, 4), (65, 5), (97, 5), (129, 6), (193, 6), (257, 7), (385, 7), (513, 8), (769, 8), (1025, 9),
  (1537, 9), (2049, 10), (3073, 10), (4097, 11), (6145, 11), (8193, 12), (12289, 12), (16385, 13),
  (24577, 13)]

/-- The number that a symbol stands for, with further bits of the stream. -/
def rangeValue? (ranges : List (Nat × Nat)) (n : Nat) (bs : Bits) : Option (Nat × Bits) := do
  let (base, width) ← ranges[n]?
  let (more, bs) ← takeBits? width bs
  some (base + more, bs)

/-- The output with `length` bytes from `distance` back repeated. -/
def repeatBytes (distance : Nat) : Nat → Array UInt8 → Array UInt8
  | 0, out => out
  | length + 1, out => repeatBytes distance length (out.push (out.getD (out.size - distance) 0))

/-- Reads the symbols of a block up to its end. Every symbol takes a bit, so that the fuel can be
the length of the stream. -/
def readSymbols? (code distances : CodeTree) :
    Nat → Bits → Array UInt8 → Option (Array UInt8 × Bits)
  | 0, _, _ => none
  | fuel + 1, bs, out => do
    let (n, bs) ← code.decode? bs
    if n < 256 then readSymbols? code distances fuel bs (out.push n.toUInt8)
    else if n == 256 then some (out, bs)
    else
      let (length, bs) ← rangeValue? lengthRanges (n - 257) bs
      let (d, bs) ← distances.decode? bs
      let (distance, bs) ← rangeValue? distanceRanges d bs
      if out.size < distance then none
      else readSymbols? code distances fuel bs (repeatBytes distance length out)

/-- Reads `count` lengths of codes, written in a code of their own. -/
def readLengths? (code : CodeTree) : Nat → Nat → Bits → List Nat → Option (List Nat × Bits)
  | 0, _, _, _ => none
  | fuel + 1, count, bs, done =>
    if count ≤ done.length then some (done.reverse, bs)
    else do
      let (n, bs) ← code.decode? bs
      if n < 16 then readLengths? code fuel count bs (n :: done)
      else
        let (width, base) := if n == 16 then (2, 3) else if n == 17 then (3, 3) else (7, 11)
        let (more, bs) ← takeBits? width bs
        let l ← if n == 16 then done.head? else some 0
        readLengths? code fuel count bs (List.replicate (base + more) l ++ done)

/-- The order in which the lengths of the code of lengths are written. -/
def lengthOrder : List Nat := [16, 17, 18, 0, 8, 7, 9, 6, 10, 5, 11, 4, 12, 3, 13, 2, 14, 1, 15]

/-- Reads numbers of three bits. -/
def readTriples? : Nat → Bits → Option (List Nat × Bits)
  | 0, bs => some ([], bs)
  | n + 1, bs => do
    let (v, bs) ← takeBits? 3 bs
    let (vs, bs) ← readTriples? n bs
    some (v :: vs, bs)

/-- Reads the two codes at the start of a block. -/
def readCodes? (bs : Bits) : Option (CodeTree × CodeTree × Bits) := do
  let (literals, bs) ← takeBits? 5 bs
  let (distances, bs) ← takeBits? 5 bs
  let (count, bs) ← takeBits? 4 bs
  let (triples, bs) ← readTriples? (count + 4) bs
  let written := lengthOrder.zip triples
  let code := codeOfLengths ((List.range 19).map fun n => ((written.lookup n).getD 0))
  let total := literals + 257 + distances + 1
  let (lengths, bs) ← readLengths? code (total + 1) total bs []
  some (codeOfLengths (lengths.take (literals + 257)),
    codeOfLengths (lengths.drop (literals + 257)), bs)

/-- Reads blocks up to the last one. Every block takes a bit, so that the fuel can be the length of
the stream. -/
def readBlocks? : Nat → Bits → Array UInt8 → Option (Array UInt8)
  | 0, _, _ => none
  | fuel + 1, bs, out => do
    let (last, bs) ← takeBits? 1 bs
    let (kind, bs) ← takeBits? 2 bs
    let (out, bs) ← match kind with
      | 0 => do
        let bs := bs.drop (bs.length % 8)
        let (size, bs) ← takeBits? 16 bs
        let (_, bs) ← takeBits? 16 bs
        let plain := bs.take (8 * size)
        if plain.length < 8 * size then none
        else some (out ++ (bytesOf size plain).toArray, bs.drop (8 * size))
      | 1 => readSymbols? fixedCode fixedDistances (bs.length + 1) bs out
      | 2 => do
        let (code, distances, bs) ← readCodes? bs
        readSymbols? code distances (bs.length + 1) bs out
      | _ => none
    if last == 1 then some out else readBlocks? fuel bs out

/-- The data that compressed data stands for. -/
def inflate? (t : Text) : Option Text :=
  let bs := bitsOf t
  (readBlocks? (bs.length + 1) bs #[]).map Array.toList

/-! ### Writing -/

/-- The fixed code of a byte. -/
def literalBits (b : UInt8) : Bits :=
  if b < 144 then codeBits 8 (0x30 + b.toNat) else codeBits 9 (0x190 + (b.toNat - 144))

/-- The data compressed with the fixed code. -/
def deflate (t : Text) : Text :=
  let bs := [true, true, false] ++ t.flatMap literalBits ++ List.replicate 7 false
  bytesOf ((bs.length + 7) / 8) bs

end NestedCss.Archive
