set_option autoImplicit false

/-! The BLAKE3 hash of a byte sequence. Bytes are cut into chunks of 1024 and chunks into blocks
of 64; chunks are the leaves of a binary tree whose left subtrees are full, and the digest is read
off its root. -/

namespace RepeatScan.Blake3

/-- Eight words carried from one compression to the next. -/
abbrev Chain := Vector UInt32 8

/-- Sixteen words: a block of input, or the state of a compression. -/
abbrev Block := Vector UInt32 16

def initialChain : Chain :=
  #v[0x6A09E667, 0xBB67AE85, 0x3C6EF372, 0xA54FF53A, 0x510E527F, 0x9B05688C, 0x1F83D9AB, 0x5BE0CD19]

def chunkStart : UInt32 := 1
def chunkEnd : UInt32 := 2
def parentFlag : UInt32 := 4
def rootFlag : UInt32 := 8

def rotateRight (word amount : UInt32) : UInt32 :=
  (word >>> amount) ||| (word <<< (32 - amount))

/-- Mixes two words of input into four words of the state. -/
def mixQuarter (state : Block) (a b c d : Fin 16) (first second : UInt32) : Block :=
  let a₁ := state[a] + state[b] + first
  let d₁ := rotateRight (state[d] ^^^ a₁) 16
  let c₁ := state[c] + d₁
  let b₁ := rotateRight (state[b] ^^^ c₁) 12
  let a₂ := a₁ + b₁ + second
  let d₂ := rotateRight (d₁ ^^^ a₂) 8
  let c₂ := c₁ + d₂
  let b₂ := rotateRight (b₁ ^^^ c₂) 7
  (((state.set a a₂).set b b₂).set c c₂).set d d₂

/-- Mixes a whole block into the columns and then into the diagonals of the state. -/
def mixRound (state input : Block) : Block :=
  let state := mixQuarter state 0 4 8 12 input[0] input[1]
  let state := mixQuarter state 1 5 9 13 input[2] input[3]
  let state := mixQuarter state 2 6 10 14 input[4] input[5]
  let state := mixQuarter state 3 7 11 15 input[6] input[7]
  let state := mixQuarter state 0 5 10 15 input[8] input[9]
  let state := mixQuarter state 1 6 11 12 input[10] input[11]
  let state := mixQuarter state 2 7 8 13 input[12] input[13]
  mixQuarter state 3 4 9 14 input[14] input[15]

/-- The order in which the next round sees the words of the block. -/
def permute (input : Block) : Block :=
  #v[input[2], input[6], input[3], input[10], input[7], input[0], input[4], input[13],
    input[1], input[11], input[12], input[5], input[9], input[14], input[15], input[8]]

/-- A number of rounds, the block permuted between them. -/
def mixRounds : Nat → Block → Block → Block
  | 0, state, _ => state
  | rounds + 1, state, input => mixRounds rounds (mixRound state input) (permute input)

/-- What one compression works on; its flags say where in the tree it stands. -/
structure Node where
  chain : Chain
  block : Block
  counter : UInt64
  length : UInt32
  flags : UInt32

def Node.compress (node : Node) : Chain :=
  let state : Block :=
    #v[node.chain[0], node.chain[1], node.chain[2], node.chain[3],
      node.chain[4], node.chain[5], node.chain[6], node.chain[7],
      initialChain[0], initialChain[1], initialChain[2], initialChain[3],
      node.counter.toUInt32, (node.counter >>> 32).toUInt32, node.length, node.flags]
  let mixed := mixRounds 7 state node.block
  Vector.ofFn fun index : Fin 8 =>
    mixed.get ⟨index.val, by omega⟩ ^^^ mixed.get ⟨index.val + 8, by omega⟩

/-- A word from up to four bytes, least significant first. -/
def wordOf (bytes : List UInt8) : UInt32 :=
  bytes.foldr (fun byte word => (word <<< 8) ||| byte.toUInt32) 0

/-- A block from up to 64 bytes, filled up with zeros. -/
def blockOf (bytes : List UInt8) : Block :=
  Vector.ofFn fun index : Fin 16 => wordOf ((bytes.drop (4 * index.val)).take 4)

/-- The last block of a chunk, behind the chain of the blocks before it. -/
def chunkFrom (counter : UInt64) (chain : Chain) (start : UInt32) (bytes : List UInt8) : Node :=
  if bytes.length ≤ 64 then
    ⟨chain, blockOf bytes, counter, bytes.length.toUInt32, start ||| chunkEnd⟩
  else
    chunkFrom counter
      (Node.compress ⟨chain, blockOf (bytes.take 64), counter, 64, start⟩) 0 (bytes.drop 64)
termination_by bytes.length
decreasing_by
  rw [List.length_drop]
  omega

/-- The leaves of the tree: one for each 1024 bytes, and one for an empty input. -/
def leavesFrom (counter : UInt64) (bytes : List UInt8) : List Node :=
  let leaf := chunkFrom counter initialChain chunkStart (bytes.take 1024)
  if bytes.length ≤ 1024 then [leaf] else leaf :: leavesFrom (counter + 1) (bytes.drop 1024)
termination_by bytes.length
decreasing_by
  rw [List.length_drop]
  omega

def parent (left right : Node) : Node :=
  ⟨initialChain, left.compress ++ right.compress, 0, 64, parentFlag⟩

/-- The largest power of two below a number from two on. -/
def leftSize (count : Nat) : Nat :=
  1 <<< Nat.log2 (count - 1)

theorem leftSize_lt {count : Nat} (several : 2 ≤ count) : leftSize count < count := by
  have bound := Nat.log2_self_le (n := count - 1) (by omega)
  rw [leftSize, Nat.one_shiftLeft]
  omega

theorem leftSize_pos (count : Nat) : 0 < leftSize count := by
  rw [leftSize, Nat.one_shiftLeft]
  exact Nat.two_pow_pos _

def treeOf : List Node → Node
  | [] => chunkFrom 0 initialChain chunkStart []
  | [leaf] => leaf
  | first :: second :: others =>
      let leaves := first :: second :: others
      parent (treeOf (leaves.take (leftSize leaves.length)))
        (treeOf (leaves.drop (leftSize leaves.length)))
termination_by leaves => leaves.length
decreasing_by
  · have several : 2 ≤ (first :: second :: others).length := by simp
    have smaller := leftSize_lt several
    rw [List.length_take]
    omega
  · have positive := leftSize_pos (first :: second :: others).length
    rw [List.length_drop]
    have several : 2 ≤ (first :: second :: others).length := by simp
    omega

def digest (bytes : List UInt8) : Chain :=
  let root := treeOf (leavesFrom 0 bytes)
  { root with flags := root.flags ||| rootFlag }.compress

/-- The first 128 bits of the digest, least significant byte first. -/
def digest128 (bytes : List UInt8) : BitVec 128 :=
  let words := digest bytes
  words[3].toBitVec ++ words[2].toBitVec ++ words[1].toBitVec ++ words[0].toBitVec

end RepeatScan.Blake3
