import Overhead.Random.Basic

/-!
# The ChaCha generator

Sixteen words at a time come from a key and the number of the block, mixed in twelve rounds. A key is
made from a seed of 64 bits by a congruential generator.
-/

namespace Overhead

/-- A block, as four rows of four words. -/
abbrev ChaChaBlock := Vector UInt32 16

namespace ChaChaBlock

def rotateLeft (x n : UInt32) : UInt32 :=
  (x <<< n) ||| (x >>> (32 - n))

def quarterRound (s : ChaChaBlock) (a b c d : Fin 16) : ChaChaBlock :=
  let s := s.set a (s[a] + s[b])
  let s := s.set d (rotateLeft (s[d] ^^^ s[a]) 16)
  let s := s.set c (s[c] + s[d])
  let s := s.set b (rotateLeft (s[b] ^^^ s[c]) 12)
  let s := s.set a (s[a] + s[b])
  let s := s.set d (rotateLeft (s[d] ^^^ s[a]) 8)
  let s := s.set c (s[c] + s[d])
  s.set b (rotateLeft (s[b] ^^^ s[c]) 7)

/-- Mixes the columns, then the diagonals. -/
def doubleRound (s : ChaChaBlock) : ChaChaBlock :=
  let s := s.quarterRound 0 4 8 12
  let s := s.quarterRound 1 5 9 13
  let s := s.quarterRound 2 6 10 14
  let s := s.quarterRound 3 7 11 15
  let s := s.quarterRound 0 5 10 15
  let s := s.quarterRound 1 6 11 12
  let s := s.quarterRound 2 7 8 13
  s.quarterRound 3 4 9 14

/-- The block with a number before it is mixed: four constants, the key and the number. -/
def initial (key : Vector UInt32 8) (number : UInt64) : ChaChaBlock :=
  (#v[0x61707865, 0x3320646e, 0x79622d32, 0x6b206574] : Vector UInt32 4) ++ key ++
    (#v[number.toUInt32, (number >>> 32).toUInt32, 0, 0] : Vector UInt32 4)

/-- The block with a number: mixed, and added to what it was before. -/
def numbered (key : Vector UInt32 8) (number : UInt64) : ChaChaBlock :=
  let start := initial key number
  Vector.zipWith (· + ·) start (Nat.repeat doubleRound 6 start)

end ChaChaBlock

structure ChaCha where
  key : Vector UInt32 8
  /-- The number of the block that follows. -/
  nextBlock : UInt64
  block : ChaChaBlock
  /-- How many words of the block were read. -/
  used : Nat

namespace ChaCha

/-- The next state of the generator that keys are made with. -/
def stretch (state : UInt64) : UInt64 :=
  state * 6364136223846793005 + 11634580027462260723

/-- The word that a state of that generator gives. -/
def keyWord (state : UInt64) : UInt32 :=
  let mixed := (((state >>> 18) ^^^ state) >>> 27).toUInt32
  let turn := (state >>> 59).toUInt32
  (mixed >>> turn) ||| (mixed <<< (32 - turn))

def keyWords : Nat → UInt64 → List UInt32
  | 0, _ => []
  | n + 1, state => keyWord (stretch state) :: keyWords n (stretch state)

theorem length_keyWords (n : Nat) (state : UInt64) : (keyWords n state).length = n := by
  induction n generalizing state with
  | zero => rfl
  | succ n ih => simp [keyWords, ih]

def ofSeed (seed : UInt64) : ChaCha where
  key := ⟨(keyWords 8 seed).toArray, by simp [length_keyWords]⟩
  nextBlock := 0
  block := Vector.replicate 16 0
  used := 16

/-- Reads a word, from the next block if this one is used up. -/
def next (random : ChaCha) : UInt32 × ChaCha :=
  if h : random.used < 16 then
    (random.block[random.used], { random with used := random.used + 1 })
  else
    let block := ChaChaBlock.numbered random.key random.nextBlock
    (block[0], { random with nextBlock := random.nextBlock + 1, block := block, used := 1 })

instance : RandomSource ChaCha := ⟨next⟩

end ChaCha
end Overhead
