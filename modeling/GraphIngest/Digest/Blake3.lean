/-!
# The BLAKE3 hash

The hash of a list of bytes: chunks of 1024 bytes are hashed block by block, and their chaining
values are joined in a binary tree whose left subtrees are complete. Joining neighbours level by
level, where an odd one out moves up unchanged, builds that tree.
-/

namespace GraphIngest.Digest

/-- Words of 32 bits: a chaining value has eight, a block and a state have sixteen. -/
abbrev Words := Array UInt32

/-- The initial chaining value. -/
def initialWords : Words :=
  #[0x6A09E667, 0xBB67AE85, 0x3C6EF372, 0xA54FF53A, 0x510E527F, 0x9B05688C, 0x1F83D9AB, 0x5BE0CD19]

/-- The order in which a round takes the words of the round before. -/
def wordOrder : List Nat := [2, 6, 3, 10, 7, 0, 4, 13, 1, 11, 12, 5, 9, 14, 15, 8]

/-- Rotates a word to the right. -/
def rotateRight (x n : UInt32) : UInt32 := (x >>> n) ||| (x <<< (32 - n))

/-- Mixes two words of a block into four words of the state. -/
def quarter (s : Words) (a b c d : Nat) (x y : UInt32) : Words :=
  let va := s.getD a 0 + s.getD b 0 + x
  let vd := rotateRight (s.getD d 0 ^^^ va) 16
  let vc := s.getD c 0 + vd
  let vb := rotateRight (s.getD b 0 ^^^ vc) 12
  let va := va + vb + y
  let vd := rotateRight (vd ^^^ va) 8
  let vc := vc + vd
  let vb := rotateRight (vb ^^^ vc) 7
  (((s.setIfInBounds a va).setIfInBounds b vb).setIfInBounds c vc).setIfInBounds d vd

/-- One round: the columns of the state, then its diagonals. -/
def round (s m : Words) : Words :=
  let w (i : Nat) := m.getD i 0
  let s := quarter s 0 4 8 12 (w 0) (w 1)
  let s := quarter s 1 5 9 13 (w 2) (w 3)
  let s := quarter s 2 6 10 14 (w 4) (w 5)
  let s := quarter s 3 7 11 15 (w 6) (w 7)
  let s := quarter s 0 5 10 15 (w 8) (w 9)
  let s := quarter s 1 6 11 12 (w 10) (w 11)
  let s := quarter s 2 7 8 13 (w 12) (w 13)
  quarter s 3 4 9 14 (w 14) (w 15)

/-- The block for the next round. -/
def reorder (m : Words) : Words := (wordOrder.map fun i => m.getD i 0).toArray

/-- The rounds that are left to run. -/
def rounds : Nat → Words → Words → Words
  | 0, s, _ => s
  | n + 1, s, m => rounds n (round s m) (reorder m)

/-- What is compressed into one node of the tree. -/
structure TreeNode where
  chain : Words
  block : Words
  counter : UInt64
  length : UInt32
  flags : UInt32

/-- Marks the first block of a chunk. -/
def chunkStart : UInt32 := 1

/-- Marks the last block of a chunk. -/
def chunkEnd : UInt32 := 2

/-- Marks a node with two children. -/
def parentMark : UInt32 := 4

/-- Marks the last compression of all. -/
def rootMark : UInt32 := 8

/-- Compresses a node with additional marks; the first half of the state is the new chaining
value. -/
def TreeNode.compress (n : TreeNode) (marks : UInt32) : Words :=
  let s := n.chain ++ initialWords.extract 0 4 ++
    #[n.counter.toUInt32, (n.counter >>> 32).toUInt32, n.length, n.flags ||| marks]
  let s := rounds 7 s n.block
  ((List.range 8).map fun i => s.getD i 0 ^^^ s.getD (i + 8) 0).toArray

/-- The word of four bytes, the least significant first; missing bytes are zero. -/
def wordOf (bytes : List UInt8) : UInt32 :=
  bytes.foldr (fun b w => (w <<< 8) ||| b.toUInt32) 0

/-- Cuts a list into pieces of a size; the first piece may be empty. -/
def pieces {α : Type} (size : Nat) : Nat → List α → List (List α)
  | 0, xs => [xs]
  | n + 1, xs => if xs.length ≤ size then [xs] else xs.take size :: pieces size n (xs.drop size)

/-- The sixteen words of a block. -/
def blockWords (bytes : List UInt8) : Words :=
  ((List.range 16).map fun i => wordOf ((bytes.drop (4 * i)).take 4)).toArray

/-- Hashes the blocks of a chunk, all but the last one of them. -/
def chunkNode (counter : Nat) (start : UInt32) (chain : Words) : List (List UInt8) → TreeNode
  | [] => ⟨chain, blockWords [], counter.toUInt64, 0, start ||| chunkEnd⟩
  | [b] => ⟨chain, blockWords b, counter.toUInt64, b.length.toUInt32, start ||| chunkEnd⟩
  | b :: bs =>
    let node : TreeNode := ⟨chain, blockWords b, counter.toUInt64, 64, start⟩
    chunkNode counter 0 (node.compress 0) bs

/-- The leaves of the tree. -/
def leaves (counter : Nat) : List (List UInt8) → List TreeNode
  | [] => []
  | c :: cs => chunkNode counter chunkStart initialWords (pieces 64 16 c) :: leaves (counter + 1) cs

/-- The node above two nodes. -/
def parentNode (left right : TreeNode) : TreeNode :=
  ⟨initialWords, left.compress 0 ++ right.compress 0, 0, 64, parentMark⟩

/-- One level of the tree from the level below. -/
def joinLevel : List TreeNode → List TreeNode
  | a :: b :: rest => parentNode a b :: joinLevel rest
  | rest => rest

/-- The root of the tree over a level; each level halves the number of nodes. -/
def treeRoot : Nat → List TreeNode → List TreeNode
  | 0, level => level
  | _, [root] => [root]
  | n + 1, level => treeRoot n (joinLevel level)

/-- The four bytes of a word, the least significant first. -/
def bytesOf (w : UInt32) : List UInt8 :=
  [w.toUInt8, (w >>> 8).toUInt8, (w >>> 16).toUInt8, (w >>> 24).toUInt8]

/-- The 32 bytes of the hash. -/
def hash (bytes : List UInt8) : List UInt8 :=
  let level := leaves 0 (pieces 1024 bytes.length bytes)
  (treeRoot level.length level).flatMap fun root =>
    (root.compress rootMark).toList.flatMap bytesOf

/-- Two lower case hexadecimal digits of a byte. -/
def hexByte (b : UInt8) : List Char := [Nat.digitChar (b.toNat / 16), Nat.digitChar (b.toNat % 16)]

/-- The hash of the bytes of a text, in lower case hexadecimal digits. -/
def hexHash (s : String) : String :=
  String.ofList ((hash s.toUTF8.toList).flatMap hexByte)

end GraphIngest.Digest
