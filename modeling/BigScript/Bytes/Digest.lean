import BigScript.Bytes.Encoding

/-!
# Digests

The 64-bit FNV-1a checksum, and the BLAKE3 hash: chunks of 1024 bytes are compressed block by block
and their chaining values are joined pairwise in a tree whose left half is the largest full one.
-/

namespace BigScript
namespace Digest

/-- The FNV-1a checksum of bytes. -/
def checksum (bytes : Bytes) : UInt64 :=
  bytes.foldl (fun hash b => (hash ^^^ b.toUInt64) * 1099511628211) 14695981039346656037

namespace Tree

/-- The starting words. -/
def start : Array UInt32 :=
  #[0x6A09E667, 0xBB67AE85, 0x3C6EF372, 0xA54FF53A, 0x510E527F, 0x9B05688C, 0x1F83D9AB, 0x5BE0CD19]

/-- The order in which a round takes the words of the round before. -/
def order : List Nat := [2, 6, 3, 10, 7, 0, 4, 13, 1, 11, 12, 5, 9, 14, 15, 8]

/-- Marks of a block: the first and the last of a chunk, a join of two chaining values, the root. -/
def firstMark : UInt32 := 1

/-- The last block of a chunk. -/
def lastMark : UInt32 := 2

/-- A join of two chaining values. -/
def joinMark : UInt32 := 4

/-- The root of the tree. -/
def rootMark : UInt32 := 8

/-- A word rotated to the right. -/
def rotate (x : UInt32) (n : UInt32) : UInt32 := (x >>> n) ||| (x <<< (32 - n))

/-- Mixes two message words into four words of the state. -/
def mix (s : Array UInt32) (a b c d : Nat) (x y : UInt32) : Array UInt32 :=
  let va := s.getD a 0 + s.getD b 0 + x
  let vd := rotate (s.getD d 0 ^^^ va) 16
  let vc := s.getD c 0 + vd
  let vb := rotate (s.getD b 0 ^^^ vc) 12
  let va := va + vb + y
  let vd := rotate (vd ^^^ va) 8
  let vc := vc + vd
  let vb := rotate (vb ^^^ vc) 7
  (((s.setIfInBounds a va).setIfInBounds b vb).setIfInBounds c vc).setIfInBounds d vd

/-- The places of the state that a round mixes, in order. -/
def lanes : List (Nat × Nat × Nat × Nat) :=
  [(0, 4, 8, 12), (1, 5, 9, 13), (2, 6, 10, 14), (3, 7, 11, 15),
   (0, 5, 10, 15), (1, 6, 11, 12), (2, 7, 8, 13), (3, 4, 9, 14)]

/-- One round. -/
def round (message : Array UInt32) (s : Array UInt32) : Array UInt32 :=
  (lanes.zipIdx).foldl (fun s ((a, b, c, d), k) =>
    mix s a b c d (message.getD (2 * k) 0) (message.getD (2 * k + 1) 0)) s

/-- A number of rounds, each with the message in the next order. -/
def rounds : Nat → Array UInt32 → Array UInt32 → Array UInt32
  | 0, _, s => s
  | n + 1, message, s =>
    rounds n ((order.map fun k => message.getD k 0).toArray) (round message s)

/-- The little-endian word of four bytes. -/
def word (bytes : Bytes) : UInt32 :=
  (bytes.zipIdx).foldl (fun w (b, k) => w ||| (b.toUInt32 <<< (8 * k).toUInt32)) 0

/-- The words of a block, filled up with zeros. -/
def words (block : Bytes) : Array UInt32 :=
  ((List.range 16).map fun k => word ((block.drop (4 * k)).take 4)).toArray

/-- Compresses a block into the first half of the resulting state. -/
def compress (chain message : Array UInt32) (counter : UInt64) (size marks : UInt32) :
    Array UInt32 :=
  let s := chain ++ start.extract 0 4 ++
    #[counter.toUInt32, (counter >>> 32).toUInt32, size, marks]
  let s := rounds 7 message s
  ((List.range 8).map fun k => s.getD k 0 ^^^ s.getD (k + 8) 0).toArray

/-- The chaining value of the blocks of a chunk; `marks` are added to those of the last block. -/
def chunkFrom (counter : UInt64) (marks : UInt32) (first : UInt32) (chain : Array UInt32) :
    List Bytes → Array UInt32
  | [] => chain
  | [block] =>
    compress chain (words block) counter block.length.toUInt32 (first ||| lastMark ||| marks)
  | block :: rest =>
    chunkFrom counter marks 0 (compress chain (words block) counter 64 first) rest

/-- Pieces of a given size; the last one may be shorter, and nothing is one empty piece. -/
def pieces (size : Nat) (steps : Nat) (bytes : Bytes) : List Bytes :=
  match steps with
  | 0 => [bytes]
  | steps + 1 =>
    if bytes.length ≤ size then [bytes] else bytes.take size :: pieces size steps (bytes.drop size)

/-- The chaining value of a chunk. -/
def chunk (counter : UInt64) (marks : UInt32) (bytes : Bytes) : Array UInt32 :=
  chunkFrom counter marks firstMark start (pieces 64 16 bytes)

/-- The largest power of two below a number. -/
def halfFrom (steps n power : Nat) : Nat :=
  match steps with
  | 0 => power
  | steps + 1 => if 2 * power < n then halfFrom steps n (2 * power) else power

/-- The chaining value of chunks, the first of which has the given number. -/
def join (steps : Nat) (counter : Nat) (marks : UInt32) (chunks : List Bytes) : Array UInt32 :=
  match steps, chunks with
  | 0, _ => start
  | _, [] => chunk counter.toUInt64 marks []
  | _, [bytes] => chunk counter.toUInt64 marks bytes
  | steps + 1, chunks =>
    let half := halfFrom chunks.length chunks.length 1
    let left := join steps counter 0 (chunks.take half)
    let right := join steps (counter + half) 0 (chunks.drop half)
    compress start (left ++ right) 0 64 (joinMark ||| marks)

/-- The four bytes of a word, the lowest first. -/
def wordBytes (w : UInt32) : Bytes :=
  [w.toUInt8, (w >>> 8).toUInt8, (w >>> 16).toUInt8, (w >>> 24).toUInt8]

end Tree

/-- The BLAKE3 hash of bytes. -/
def hash (bytes : Bytes) : Bytes :=
  let chunks := Tree.pieces 1024 bytes.length bytes
  (Tree.join (chunks.length + 1) 0 Tree.rootMark chunks).toList.flatMap Tree.wordBytes

end Digest
end BigScript
