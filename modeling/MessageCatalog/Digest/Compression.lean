/-!
# The compression function of BLAKE3

Words of 32 bits are added without their carry, combined bit by bit and rotated. A state is sixteen
words: the chaining value, half of the initial value, and the counter, length and marks of the
block. Seven rounds mix the words of a block into it, in an order that changes from round to round.
-/

namespace MessageCatalog.Digest

/-- What a part of the input is handed on as. -/
abbrev Chaining := Vector UInt32 8

/-- The words of a block, or of a state. -/
abbrev Words := Vector UInt32 16

/-- The chaining value at the start. -/
def initial : Chaining :=
  #v[0x6a09e667, 0xbb67ae85, 0x3c6ef372, 0xa54ff53a, 0x510e527f, 0x9b05688c, 0x1f83d9ab,
    0x5be0cd19]

/-- A word rotated to the right. -/
def rotateRight (w n : UInt32) : UInt32 :=
  (w >>> n) ||| (w <<< (32 - n))

/-- Mix two words of a block into four words of a state. -/
def mix (s : Words) (a b c d : Fin 16) (x y : UInt32) : Words :=
  let wa := s[a] + s[b] + x
  let wd := rotateRight (s[d] ^^^ wa) 16
  let wc := s[c] + wd
  let wb := rotateRight (s[b] ^^^ wc) 12
  let wa := wa + wb + y
  let wd := rotateRight (wd ^^^ wa) 8
  let wc := wc + wd
  let wb := rotateRight (wb ^^^ wc) 7
  (((s.set a wa).set b wb).set c wc).set d wd

/-- The places of a state that the steps of a round mix, columns first and diagonals after. -/
def steps : List (Fin 16 × Fin 16 × Fin 16 × Fin 16) :=
  [(0, 4, 8, 12), (1, 5, 9, 13), (2, 6, 10, 14), (3, 7, 11, 15),
   (0, 5, 10, 15), (1, 6, 11, 12), (2, 7, 8, 13), (3, 4, 9, 14)]

/-- The order in which the words of a block are taken in the next round. -/
def order (m : Words) : Words :=
  #v[m[2], m[6], m[3], m[10], m[7], m[0], m[4], m[13], m[1], m[11], m[12], m[5], m[9], m[14],
    m[15], m[8]]

/-- Mix the words of a block into a state, two in each step. -/
def round (m s : Words) : Words :=
  (steps.zip [(m[0], m[1]), (m[2], m[3]), (m[4], m[5]), (m[6], m[7]), (m[8], m[9]),
    (m[10], m[11]), (m[12], m[13]), (m[14], m[15])]).foldl
    (fun s ((a, b, c, d), x, y) => mix s a b c d x y) s

/-- So many rounds, each with the words of the block in the next order. -/
def rounds : Nat → Words → Words → Words
  | 0, _, s => s
  | n + 1, m, s => rounds n (order m) (round m s)

/-- A block to be compressed. -/
structure Block where
  chaining : Chaining
  words : Words
  counter : UInt64 := 0
  length : UInt32 := 64
  marks : UInt32
  deriving DecidableEq

namespace Block

/-- The state before the first round. -/
def start (b : Block) : Words :=
  b.chaining ++ #v[initial[0], initial[1], initial[2], initial[3], b.counter.toUInt32,
    (b.counter >>> 32).toUInt32, b.length, b.marks]

/-- The chaining value of a block. -/
def compress (b : Block) : Chaining :=
  let s := rounds 7 b.words b.start
  Vector.ofFn fun i : Fin 8 => s[i.val] ^^^ s[i.val + 8]

end Block

end MessageCatalog.Digest
