/-!
# The stream of random bytes

A xoshiro256++ generator: 256 bits of state, one 64-bit output for each random byte, of which the
bits 32 to 39 are used. `RandomStream.ofSeed` expands a 64-bit seed into the state through eight
steps of a permuted congruential generator (PCG), 32 bits a step.
-/

namespace Chip8

/-- The state of the generator. -/
structure RandomStream where
  s0 : UInt64
  s1 : UInt64
  s2 : UInt64
  s3 : UInt64
  deriving DecidableEq, Repr, Inhabited

namespace RandomStream

/-- Turns 64 bits to the left by `k`, for `0 < k < 64`. -/
def rotateLeft (x k : UInt64) : UInt64 :=
  (x <<< k) ||| (x >>> (64 - k))

/-- Turns 32 bits to the right by `k < 32`. -/
def rotateRight (x k : UInt32) : UInt32 :=
  (x >>> k) ||| (x <<< (32 - k))

/-- One step of the congruential generator that expands seeds. -/
def expand (s : UInt64) : UInt64 :=
  s * 6364136223846793005 + 11634580027462260723

/-- The 32 bits that the expansion gives for a state. -/
def permute (s : UInt64) : UInt32 :=
  rotateRight ((((s >>> 18) ^^^ s) >>> 27).toUInt32) (s >>> 59).toUInt32

/-- Two steps of the expansion: 64 bits, the low half first, and the next state. -/
def expandPair (s : UInt64) : UInt64 × UInt64 :=
  let low := expand s
  let high := expand low
  ((permute low).toUInt64 ||| ((permute high).toUInt64 <<< 32), high)

/-- The stream that belongs to a seed. -/
def ofSeed (seed : UInt64) : RandomStream :=
  let (s0, seed) := expandPair seed
  let (s1, seed) := expandPair seed
  let (s2, seed) := expandPair seed
  let (s3, _) := expandPair seed
  ⟨s0, s1, s2, s3⟩

/-- The output of a state. -/
def output (r : RandomStream) : UInt64 :=
  rotateLeft (r.s0 + r.s3) 23 + r.s0

/-- The state after an output. -/
def advance (r : RandomStream) : RandomStream :=
  let s2 := r.s2 ^^^ r.s0
  let s3 := r.s3 ^^^ r.s1
  { s0 := r.s0 ^^^ s3
    s1 := r.s1 ^^^ s2
    s2 := s2 ^^^ (r.s1 <<< 17)
    s3 := rotateLeft s3 45 }

/-- The next byte and the rest of the stream. -/
def next (r : RandomStream) : UInt8 × RandomStream :=
  ((r.output >>> 32).toUInt8, r.advance)

/-- The state after `n` bytes. -/
def drop (r : RandomStream) : Nat → RandomStream
  | 0 => r
  | n + 1 => r.advance.drop n

/-- The byte at position `n` of the stream. -/
def byteAt (r : RandomStream) (n : Nat) : UInt8 :=
  (r.drop n).next.1

end RandomStream

end Chip8
