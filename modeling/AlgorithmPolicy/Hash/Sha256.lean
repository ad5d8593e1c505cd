namespace AlgorithmPolicy.Sha256

/-! SHA-256 of a list of bytes, after FIPS 180-4. -/

/-! ## Words -/

def rotateRight (word count : UInt32) : UInt32 :=
  (word >>> count) ||| (word <<< (32 - count))

def choose (x y z : UInt32) : UInt32 :=
  (x &&& y) ^^^ (~~~x &&& z)

def majority (x y z : UInt32) : UInt32 :=
  (x &&& y) ^^^ (x &&& z) ^^^ (y &&& z)

def bigSigma0 (word : UInt32) : UInt32 :=
  rotateRight word 2 ^^^ rotateRight word 13 ^^^ rotateRight word 22

def bigSigma1 (word : UInt32) : UInt32 :=
  rotateRight word 6 ^^^ rotateRight word 11 ^^^ rotateRight word 25

def smallSigma0 (word : UInt32) : UInt32 :=
  rotateRight word 7 ^^^ rotateRight word 18 ^^^ (word >>> 3)

def smallSigma1 (word : UInt32) : UInt32 :=
  rotateRight word 17 ^^^ rotateRight word 19 ^^^ (word >>> 10)

/-- The bytes of a word, the most significant one first. -/
def wordBytes (word : UInt32) : List UInt8 :=
  [(word >>> 24).toUInt8, (word >>> 16).toUInt8, (word >>> 8).toUInt8, word.toUInt8]

def wordOfBytes (first second third fourth : UInt8) : UInt32 :=
  (first.toUInt32 <<< 24) ||| (second.toUInt32 <<< 16) ||| (third.toUInt32 <<< 8) |||
    fourth.toUInt32

/-- The words of a list of bytes, whose length is a multiple of four. -/
def wordsOfBytes : List UInt8 → List UInt32
  | first :: second :: third :: fourth :: rest =>
      wordOfBytes first second third fourth :: wordsOfBytes rest
  | _ => []

/-! ## Padding

A message is followed by a bit that is set, by zeros, and by its length in bits, so that
it fills blocks of sixty-four bytes. -/

def lengthBytes (count : Nat) : List UInt8 :=
  (List.range 8).map fun place => UInt8.ofNat ((8 * count) >>> (8 * (7 - place)))

def zeroCount (count : Nat) : Nat :=
  (119 - count % 64) % 64

def pad (message : List UInt8) : List UInt8 :=
  message ++ 0x80 :: (List.replicate (zeroCount message.length) 0 ++
    lengthBytes message.length)

/-! ## Compression -/

structure State where
  a : UInt32
  b : UInt32
  c : UInt32
  d : UInt32
  e : UInt32
  f : UInt32
  g : UInt32
  h : UInt32

namespace State

def initial : State :=
  ⟨0x6a09e667, 0xbb67ae85, 0x3c6ef372, 0xa54ff53a, 0x510e527f, 0x9b05688c, 0x1f83d9ab,
   0x5be0cd19⟩

def add (left right : State) : State :=
  ⟨left.a + right.a, left.b + right.b, left.c + right.c, left.d + right.d,
   left.e + right.e, left.f + right.f, left.g + right.g, left.h + right.h⟩

/-- One round, with the sum of a word of the schedule and its constant. -/
def round (state : State) (summand : UInt32) : State :=
  let first :=
    state.h + bigSigma1 state.e + choose state.e state.f state.g + summand
  let second := bigSigma0 state.a + majority state.a state.b state.c
  ⟨first + second, state.a, state.b, state.c, state.d + first, state.e, state.f, state.g⟩

def bytes (state : State) : List UInt8 :=
  [state.a, state.b, state.c, state.d, state.e, state.f, state.g, state.h].flatMap wordBytes

end State

def constants : List UInt32 :=
  [0x428a2f98, 0x71374491, 0xb5c0fbcf, 0xe9b5dba5, 0x3956c25b, 0x59f111f1,
   0x923f82a4, 0xab1c5ed5, 0xd807aa98, 0x12835b01, 0x243185be, 0x550c7dc3,
   0x72be5d74, 0x80deb1fe, 0x9bdc06a7, 0xc19bf174, 0xe49b69c1, 0xefbe4786,
   0x0fc19dc6, 0x240ca1cc, 0x2de92c6f, 0x4a7484aa, 0x5cb0a9dc, 0x76f988da,
   0x983e5152, 0xa831c66d, 0xb00327c8, 0xbf597fc7, 0xc6e00bf3, 0xd5a79147,
   0x06ca6351, 0x14292967, 0x27b70a85, 0x2e1b2138, 0x4d2c6dfc, 0x53380d13,
   0x650a7354, 0x766a0abb, 0x81c2c92e, 0x92722c85, 0xa2bfe8a1, 0xa81a664b,
   0xc24b8b70, 0xc76c51a3, 0xd192e819, 0xd6990624, 0xf40e3585, 0x106aa070,
   0x19a4c116, 0x1e376c08, 0x2748774c, 0x34b0bcb5, 0x391c0cb3, 0x4ed8aa4a,
   0x5b9cca4f, 0x682e6ff3, 0x748f82ee, 0x78a5636f, 0x84c87814, 0x8cc70208,
   0x90befffa, 0xa4506ceb, 0xbef9a3f7, 0xc67178f2]

/-- Appends words to a schedule, of which the latest word is first. -/
def extendSchedule : (count : Nat) → List UInt32 → List UInt32
  | 0, reversed => reversed
  | count + 1, reversed =>
      let word := smallSigma1 (reversed.getD 1 0) + reversed.getD 6 0 +
        smallSigma0 (reversed.getD 14 0) + reversed.getD 15 0
      extendSchedule count (word :: reversed)

/-- The sixty-four words that belong to the sixteen words of a block. -/
def schedule (words : List UInt32) : List UInt32 :=
  (extendSchedule 48 words.reverse).reverse

def compress (state : State) (words : List UInt32) : State :=
  state.add ((List.zipWith (· + ·) constants (schedule words)).foldl State.round state)

/-- Takes so many blocks of sixty-four bytes into a state. -/
def absorb : (blocks : Nat) → State → List UInt8 → State
  | 0, state, _ => state
  | blocks + 1, state, bytes =>
      absorb blocks (compress state (wordsOfBytes (bytes.take 64))) (bytes.drop 64)

def hash (message : List UInt8) : List UInt8 :=
  let padded := pad message
  (absorb (padded.length / 64) .initial padded).bytes

/-- The message of the letters `abc`. -/
example : hash [0x61, 0x62, 0x63] =
    [0xba, 0x78, 0x16, 0xbf, 0x8f, 0x01, 0xcf, 0xea, 0x41, 0x41, 0x40, 0xde, 0x5d, 0xae, 0x22,
     0x23, 0xb0, 0x03, 0x61, 0xa3, 0x96, 0x17, 0x7a, 0x9c, 0xb4, 0x10, 0xff, 0x61, 0xf2, 0x00,
     0x15, 0xad] := by
  decide +kernel

theorem length_bytes (state : State) : state.bytes.length = 32 := rfl

theorem length_hash (message : List UInt8) : (hash message).length = 32 :=
  length_bytes _

end AlgorithmPolicy.Sha256
