import MessageCatalog.Digest.Compression
import MessageCatalog.Text.Numeral

/-!
# Digests

The BLAKE3 digest of a file. The input is cut into chunks of 1024 bytes and a chunk into blocks of
64, of which only the last may be shorter. The chunks are the leaves of a binary tree in which the
left part of a node is the largest full tree that leaves something for the right part. The digest is
the chaining value of the root, marked as such.
-/

namespace MessageCatalog.Digest

def chunkStart : UInt32 := 1
def chunkEnd : UInt32 := 2
def parent : UInt32 := 4
def root : UInt32 := 8

/-- A list cut into parts of a positive length, of which the last may be shorter; the empty list is
one empty part. -/
def parts {α : Type} (size : Nat) (s : List α) : List (List α) :=
  if _h : 0 < size ∧ size < s.length then s.take size :: parts size (s.drop size) else [s]
  termination_by s.length
  decreasing_by simp only [List.length_drop]; omega

/-- The word that four bytes make, the lowest byte first. -/
def wordOfBytes (bytes : List UInt8) : UInt32 :=
  bytes.foldr (fun b w => (w <<< 8) ||| b.toUInt32) 0

/-- The words of a block, missing bytes being zero. -/
def wordsOfBytes (bytes : List UInt8) : Words :=
  let words := ((parts 4 bytes).map wordOfBytes).toArray
  Vector.ofFn fun i : Fin 16 => words[i.val]?.getD 0

/-- The last block of a chunk, given the blocks from some place on. -/
def lastBlock (counter : UInt64) (chaining : Chaining) (marks : UInt32) : List (List UInt8) → Block
  | [] => { chaining, words := wordsOfBytes [], counter, length := 0, marks := marks ||| chunkEnd }
  | [bytes] =>
    { chaining, words := wordsOfBytes bytes, counter, length := bytes.length.toUInt32,
      marks := marks ||| chunkEnd }
  | bytes :: rest =>
    let block : Block := { chaining, words := wordsOfBytes bytes, counter, marks }
    lastBlock counter block.compress 0 rest

/-- The last block of a chunk. -/
def chunkBlock (counter : Nat) (chunk : List UInt8) : Block :=
  lastBlock counter.toUInt64 initial chunkStart (parts 64 chunk)

/-- How many of some chunks stand to the left: the largest power of two below their number. -/
def leftCount (n : Nat) : Nat :=
  Nat.pow 2 (Nat.log2 (n - 1))

theorem leftCount_lt {n : Nat} (h : 2 ≤ n) : leftCount n < n := by
  have := Nat.log2_self_le (n := n - 1) (by omega)
  simp only [leftCount, Nat.pow_eq]
  omega

theorem leftCount_pos (n : Nat) : 0 < leftCount n :=
  Nat.two_pow_pos _

/-- The last block of the tree over some chunks, of which the first has a number. -/
def treeBlock (counter : Nat) (chunks : List (List UInt8)) : Block :=
  if _h : 2 ≤ chunks.length then
    let n := leftCount chunks.length
    let left := (treeBlock counter (chunks.take n)).compress
    let right := (treeBlock (counter + n) (chunks.drop n)).compress
    { chaining := initial, words := left ++ right, marks := parent }
  else chunkBlock counter (chunks.headD [])
  termination_by chunks.length
  decreasing_by
    · have := leftCount_lt _h
      simp only [List.length_take]; omega
    · have := leftCount_pos chunks.length
      simp only [List.length_drop]; omega

/-- The bytes of a word, the lowest first. -/
def bytesOfWord (w : UInt32) : List UInt8 :=
  [w.toUInt8, (w >>> 8).toUInt8, (w >>> 16).toUInt8, (w >>> 24).toUInt8]

/-- The digest of some bytes, in 32 bytes. -/
def digest (bytes : List UInt8) : List UInt8 :=
  let block := treeBlock 0 (parts 1024 bytes)
  (Block.compress { block with marks := block.marks ||| root }).toList.flatMap bytesOfWord

/-- The digest of some bytes in hexadecimal digits. -/
def hexDigest (bytes : List UInt8) : String :=
  String.ofList ((digest bytes).flatMap fun b => Text.hexPadded 2 b.toNat)

/-- The parts of a list are the list. -/
theorem flatten_parts {α : Type} (size : Nat) (s : List α) : (parts size s).flatten = s := by
  fun_induction parts size s with
  | case1 s h ih => simp [ih]
  | case2 s h => simp

end MessageCatalog.Digest
