/-!
# The BLAKE3 digest

The input is cut into chunks of 1024 bytes, a chunk into blocks of 64 bytes. The blocks of a chunk
are compressed one after the other; the chunks are the leaves of a binary tree whose left subtrees
are as large a power of two as fits. A node of the tree is described by the arguments of its last
compression (`Node`): run as an inner node it gives the eight words that its parent reads, run as
the root it gives the digest.

`digest` is the unkeyed hash, cut to its default length of 32 bytes.
-/

namespace QuorumRing.Blake3

/-- Eight words that carry the state from one compression to the next. -/
abbrev Chaining := Vector UInt32 8

/-- The sixteen words of a block, and of the state inside a compression. -/
abbrev Block := Vector UInt32 16

/-- The chaining words that every chunk starts from. -/
def initialChaining : Chaining :=
  #v[0x6A09E667, 0xBB67AE85, 0x3C6EF372, 0xA54FF53A, 0x510E527F, 0x9B05688C, 0x1F83D9AB, 0x5BE0CD19]

/-! ## Flags: the place of a compression in the tree -/

/-- The first block of a chunk. -/
def chunkStart : UInt32 := 1

/-- The last block of a chunk. -/
def chunkEnd : UInt32 := 2

/-- A node that joins two subtrees. -/
def parent : UInt32 := 4

/-- The node whose output is the digest. -/
def root : UInt32 := 8

/-! ## Compression -/

/-- Rotation to the right, for amounts strictly between 0 and 32. -/
def rotateRight (x n : UInt32) : UInt32 := (x >>> n) ||| (x <<< (32 - n))

/-- The quarter round: mixes two message words into four words of the state. -/
def mix (s : Block) (a b c d : Fin 16) (x y : UInt32) : Block :=
  let va := s[a] + s[b] + x
  let vd := rotateRight (s[d] ^^^ va) 16
  let vc := s[c] + vd
  let vb := rotateRight (s[b] ^^^ vc) 12
  let va := va + vb + y
  let vd := rotateRight (vd ^^^ va) 8
  let vc := vc + vd
  let vb := rotateRight (vb ^^^ vc) 7
  (((s.set a va).set b vb).set c vc).set d vd

/-- One round: the quarter round on the four columns of the state, then on its four diagonals. -/
def mixAll (s m : Block) : Block :=
  let s := mix s 0 4 8 12 m[0] m[1]
  let s := mix s 1 5 9 13 m[2] m[3]
  let s := mix s 2 6 10 14 m[4] m[5]
  let s := mix s 3 7 11 15 m[6] m[7]
  let s := mix s 0 5 10 15 m[8] m[9]
  let s := mix s 1 6 11 12 m[10] m[11]
  let s := mix s 2 7 8 13 m[12] m[13]
  mix s 3 4 9 14 m[14] m[15]

/-- The order in which the next round reads the message words. -/
def permute (m : Block) : Block :=
  #v[m[2], m[6], m[3], m[10], m[7], m[0], m[4], m[13],
     m[1], m[11], m[12], m[5], m[9], m[14], m[15], m[8]]

/-- The given number of rounds, with the message words permuted between two of them. -/
def rounds : Nat → Block → Block → Block
  | 0, s, _ => s
  | n + 1, s, m => rounds n (mixAll s m) (permute m)

/-- Compresses one block to eight words. The second half of the state is folded into the first. -/
def compress (chaining : Chaining) (block : Block) (counter : UInt64) (length flags : UInt32) :
    Chaining :=
  let s : Block :=
    #v[chaining[0], chaining[1], chaining[2], chaining[3],
       chaining[4], chaining[5], chaining[6], chaining[7],
       initialChaining[0], initialChaining[1], initialChaining[2], initialChaining[3],
       counter.toUInt32, (counter >>> 32).toUInt32, length, flags]
  let s := rounds 7 s block
  #v[s[0] ^^^ s[8], s[1] ^^^ s[9], s[2] ^^^ s[10], s[3] ^^^ s[11],
     s[4] ^^^ s[12], s[5] ^^^ s[13], s[6] ^^^ s[14], s[7] ^^^ s[15]]

/-! ## The tree of chunks -/

/-- The arguments of the last compression of a chunk or of an inner node. -/
structure Node where
  /-- The chaining words it starts from. -/
  chaining : Chaining
  /-- The block it reads. -/
  block : Block
  /-- The index of the chunk, and 0 for an inner node. -/
  counter : UInt64
  /-- The number of bytes in the block. -/
  length : UInt32
  /-- The flags, without `root`. -/
  flags : UInt32

/-- What the parent of the node reads. -/
def Node.output (n : Node) : Chaining := compress n.chaining n.block n.counter n.length n.flags

/-- The words of the digest, for the node at the root. -/
def Node.rootOutput (n : Node) : Chaining :=
  compress n.chaining n.block 0 n.length (n.flags ||| root)

/-- Cuts a list into pieces of `size + 1` elements; the last piece may be shorter. The empty list is
one empty piece. -/
def pieces {α : Type} (size : Nat) (l : List α) : List (List α) :=
  match h : l.drop (size + 1) with
  | [] => [l]
  | x :: rest => l.take (size + 1) :: pieces size (x :: rest)
termination_by l.length
decreasing_by
  have := congrArg List.length h
  simp only [List.length_drop, List.length_cons] at this ⊢
  omega

/-- The word at index `i` of a block, low byte first; bytes past the end count as zero. -/
def wordAt (bytes : Array UInt8) (i : Nat) : UInt32 :=
  (bytes[4 * i]?.getD 0).toUInt32 ||| ((bytes[4 * i + 1]?.getD 0).toUInt32 <<< 8) |||
    ((bytes[4 * i + 2]?.getD 0).toUInt32 <<< 16) ||| ((bytes[4 * i + 3]?.getD 0).toUInt32 <<< 24)

/-- The words of a block of at most 64 bytes. -/
def blockOf (bytes : List UInt8) : Block :=
  let bytes := bytes.toArray
  Vector.ofFn fun i => wordAt bytes i

/-- Runs through the blocks of a chunk: all but the last are compressed. The flags are those of the
first block. -/
def chunkNode (counter : UInt64) (chaining : Chaining) (flags : UInt32) : List (List UInt8) → Node
  | [] => ⟨chaining, blockOf [], counter, 0, flags ||| chunkEnd⟩
  | [last] => ⟨chaining, blockOf last, counter, last.length.toUInt32, flags ||| chunkEnd⟩
  | bytes :: rest =>
    chunkNode counter (compress chaining (blockOf bytes) counter 64 flags) 0 rest

/-- The node of the chunk with the given index. -/
def leaf (bytes : List UInt8) (index : Nat) : Node :=
  chunkNode index.toUInt64 initialChaining chunkStart (pieces 63 bytes)

/-- The node over two subtrees. -/
def join (left right : Node) : Node :=
  ⟨initialChaining, left.output ++ right.output, 0, 64, parent⟩

/-- The number of leaves in the left subtree of a tree with `n` leaves: the greatest power of two
below `n`. -/
def leftSize (n : Nat) : Nat := Nat.pow 2 (n - 1).log2

theorem leftSize_lt {n : Nat} (h : 2 ≤ n) : leftSize n < n := by
  have : Nat.pow 2 (n - 1).log2 ≤ n - 1 := Nat.log2_self_le (by omega)
  simp only [leftSize]
  omega

theorem leftSize_pos (n : Nat) : 0 < leftSize n := Nat.two_pow_pos _

/-- The node at the top of a nonempty list of leaves. -/
def top : List Node → Node
  | [] => leaf [] 0
  | [node] => node
  | a :: b :: rest =>
    let n := leftSize (rest.length + 2)
    join (top ((a :: b :: rest).take n)) (top ((a :: b :: rest).drop n))
termination_by l => l.length
decreasing_by
  · have := leftSize_lt (n := rest.length + 2) (by omega)
    simp only [List.length_take, List.length_cons]
    omega
  · have := leftSize_pos (rest.length + 2)
    simp only [List.length_drop, List.length_cons]
    omega

/-- The eight words of the digest. -/
def digestWords (bytes : List UInt8) : Chaining :=
  (top ((pieces 1023 bytes).zipIdx.map fun (chunk, index) => leaf chunk index)).rootOutput

/-- The four bytes of a word, low byte first. -/
def wordBytes (w : UInt32) : List UInt8 :=
  [w.toUInt8, (w >>> 8).toUInt8, (w >>> 16).toUInt8, (w >>> 24).toUInt8]

/-- The digest: 32 bytes. -/
def digest (bytes : List UInt8) : List UInt8 :=
  (digestWords bytes).toList.flatMap wordBytes

end QuorumRing.Blake3
