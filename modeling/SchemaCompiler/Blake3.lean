import SchemaCompiler.Text.Hex

/-!
The BLAKE3 hash of a sequence of bytes.

The input is cut into chunks of 1024 bytes and these into blocks of 64 bytes.  A chunk chains the
compression of its blocks; chunks are joined in pairs, level by level, an odd one at the end being
carried up, until one node is left.  That node is compressed once more as the root.

* `Blake3.compress`: seven rounds over sixteen words;
* `Blake3.Node`: a compression that is still to be done, as a leaf, a parent or the root;
* `Blake3.hash`: the 32 bytes of the root, and `Blake3.hexDigest` their hexadecimal text.
-/

namespace SchemaCompiler.Blake3

/-- Sixteen words: a block of the message, or the state that it is mixed into. -/
abbrev Words := Vector UInt32 16

/-- The eight words that one compression hands to the next. -/
abbrev Chain := Vector UInt32 8

/-- The initial chaining words. -/
def initial : Chain :=
  #v[0x6A09E667, 0xBB67AE85, 0x3C6EF372, 0xA54FF53A, 0x510E527F, 0x9B05688C, 0x1F83D9AB, 0x5BE0CD19]

/-- Where each message word comes from in the next round. -/
def schedule : Vector (Fin 16) 16 := #v[2, 6, 3, 10, 7, 0, 4, 13, 1, 11, 12, 5, 9, 14, 15, 8]

/-- Marks the first block of a chunk. -/
def chunkStart : UInt32 := 1
/-- Marks the last block of a chunk. -/
def chunkEnd : UInt32 := 2
/-- Marks a parent node. -/
def parent : UInt32 := 4
/-- Marks the root. -/
def root : UInt32 := 8

/-- Rotates a word to the right. -/
def rotateRight (x n : UInt32) : UInt32 := (x >>> n) ||| (x <<< (32 - n))

/-- Mixes two message words into four words of the state. -/
def mix (s : Words) (a b c d : Fin 16) (x y : UInt32) : Words :=
  let s := s.set a (s[a] + s[b] + x)
  let s := s.set d (rotateRight (s[d] ^^^ s[a]) 16)
  let s := s.set c (s[c] + s[d])
  let s := s.set b (rotateRight (s[b] ^^^ s[c]) 12)
  let s := s.set a (s[a] + s[b] + y)
  let s := s.set d (rotateRight (s[d] ^^^ s[a]) 8)
  let s := s.set c (s[c] + s[d])
  s.set b (rotateRight (s[b] ^^^ s[c]) 7)

/-- Mixes the columns of the state, then its diagonals. -/
def round (s m : Words) : Words :=
  let s := mix s 0 4 8 12 m[0] m[1]
  let s := mix s 1 5 9 13 m[2] m[3]
  let s := mix s 2 6 10 14 m[4] m[5]
  let s := mix s 3 7 11 15 m[6] m[7]
  let s := mix s 0 5 10 15 m[8] m[9]
  let s := mix s 1 6 11 12 m[10] m[11]
  let s := mix s 2 7 8 13 m[12] m[13]
  mix s 3 4 9 14 m[14] m[15]

/-- A number of rounds, the message being permuted between them. -/
def rounds : Nat → Words → Words → Words
  | 0, s, _ => s
  | n + 1, s, m => rounds n (round s m) (schedule.map fun i => m[i])

/-- A compression still to be done. -/
structure Node where
  chain : Chain
  block : Words
  counter : Nat
  length : Nat
  flags : UInt32

/-- The chaining words after a compression. -/
def compress (node : Node) : Chain :=
  let chain := node.chain
  let s : Words :=
    #v[chain[0], chain[1], chain[2], chain[3], chain[4], chain[5], chain[6], chain[7],
      initial[0], initial[1], initial[2], initial[3], UInt32.ofNat node.counter,
      UInt32.ofNat (node.counter / Nat.pow 2 32), UInt32.ofNat node.length, node.flags]
  let s := rounds 7 s node.block
  Vector.ofFn fun i : Fin 8 => s[i.val] ^^^ s[i.val + 8]

/-- The bytes of a block as words, the lowest byte first, missing ones being zero. -/
def blockWords (bytes : List UInt8) : Words :=
  let padded := bytes ++ List.replicate (64 - bytes.length) 0
  Vector.ofFn fun i : Fin 16 =>
    ((padded.drop (4 * i)).take 4).foldr (fun byte word => word * 256 + byte.toUInt32) 0

/-- Cuts a list into pieces of a size, the last one perhaps shorter. -/
def pieces {α : Type} (size : Nat) : (fuel : Nat) → List α → List (List α)
  | 0, _ => []
  | fuel + 1, items =>
    if items.length ≤ size then [items] else items.take size :: pieces size fuel (items.drop size)

/-- Chains the blocks of a chunk up to its last, which is left to be compressed. -/
def chunkNode (counter : Nat) : (chain : Chain) → (start : UInt32) → List (List UInt8) → Node
  | chain, start, [] => ⟨chain, blockWords [], counter, 0, start ||| chunkEnd⟩
  | chain, start, [block] => ⟨chain, blockWords block, counter, block.length, start ||| chunkEnd⟩
  | chain, start, block :: rest =>
    chunkNode counter (compress ⟨chain, blockWords block, counter, block.length, start⟩) 0 rest

/-- The node of a chunk. -/
def ofChunk (counter : Nat) (bytes : List UInt8) : Node :=
  chunkNode counter initial chunkStart (pieces 64 bytes.length.succ bytes)

/-- The parent of two nodes. -/
def join (left right : Node) : Node :=
  ⟨initial, (compress left ++ compress right : Vector UInt32 (8 + 8)), 0, 64, parent⟩

/-- Joins neighbours in pairs. -/
def joinPairs : List Node → List Node
  | left :: right :: rest => join left right :: joinPairs rest
  | rest => rest

/-- Joins pairs until one node is left. -/
def joinAll : (fuel : Nat) → List Node → Option Node
  | _, [] => none
  | _, [node] => some node
  | 0, node :: _ => some node
  | fuel + 1, nodes => joinAll fuel (joinPairs nodes)

/-- The hash of some bytes, as eight words. -/
def hash (bytes : List UInt8) : Chain :=
  let chunks := pieces 1024 bytes.length.succ bytes
  let nodes := chunks.zipIdx.map fun (chunk, counter) => ofChunk counter chunk
  match joinAll nodes.length nodes with
  | some node => compress { node with flags := node.flags ||| root }
  | none => initial

/-- A word as eight hexadecimal digits, the lowest byte first. -/
def hexWord (word : UInt32) : List Char :=
  let n := word.toNat
  Text.hexByte (n % 256) ++ Text.hexByte (n / 0x100 % 256) ++ Text.hexByte (n / 0x10000 % 256) ++
    Text.hexByte (n / 0x1000000)

/-- The hash of a string's UTF-8 bytes, as hexadecimal text. -/
def hexDigest (text : String) : String :=
  String.ofList ((hash text.toUTF8.toList).toList.flatMap hexWord)

end SchemaCompiler.Blake3
