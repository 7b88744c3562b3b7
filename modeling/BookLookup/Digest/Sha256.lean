/-!
# SHA-256

The message is padded to whole blocks of 64 octets. Each block gives sixteen
words, which a schedule extends to sixty-four; the sixty-four rounds over them
change a state of eight words, and the state before the block is added to the
result. Words are big-endian.
-/

namespace BookLookup
namespace Sha256

/-- The constants of the rounds: the first thirty-two bits of the fractional
parts of the cube roots of the first sixty-four primes. -/
def roundConstants : List UInt32 := [
  0x428a2f98, 0x71374491, 0xb5c0fbcf, 0xe9b5dba5, 0x3956c25b, 0x59f111f1,
  0x923f82a4, 0xab1c5ed5, 0xd807aa98, 0x12835b01, 0x243185be, 0x550c7dc3,
  0x72be5d74, 0x80deb1fe, 0x9bdc06a7, 0xc19bf174, 0xe49b69c1, 0xefbe4786,
  0x0fc19dc6, 0x240ca1cc, 0x2de92c6f, 0x4a7484aa, 0x5cb0a9dc, 0x76f988da,
  0x983e5152, 0xa831c66d, 0xb00327c8, 0xbf597fc7, 0xc6e00bf3, 0xd5a79147,
  0x06ca6351, 0x14292967, 0x27b70a85, 0x2e1b2138, 0x4d2c6dfc, 0x53380d13,
  0x650a7354, 0x766a0abb, 0x81c2c92e, 0x92722c85, 0xa2bfe8a1, 0xa81a664b,
  0xc24b8b70, 0xc76c51a3, 0xd192e819, 0xd6990624, 0xf40e3585, 0x106aa070,
  0x19a4c116, 0x1e376c08, 0x2748774c, 0x34b0bcb5, 0x391c0cb3, 0x4ed8aa4a,
  0x5b9cca4f, 0x682e6ff3, 0x748f82ee, 0x78a5636f, 0x84c87814, 0x8cc70208,
  0x90befffa, 0xa4506ceb, 0xbef9a3f7, 0xc67178f2]

/-- Eight words. -/
structure State where
  /-- The first word. -/
  a : UInt32
  /-- The second word. -/
  b : UInt32
  /-- The third word. -/
  c : UInt32
  /-- The fourth word. -/
  d : UInt32
  /-- The fifth word. -/
  e : UInt32
  /-- The sixth word. -/
  f : UInt32
  /-- The seventh word. -/
  g : UInt32
  /-- The eighth word. -/
  h : UInt32
  deriving DecidableEq, Repr

/-- The state before the first block: the first thirty-two bits of the
fractional parts of the square roots of the first eight primes. -/
def initialState : State where
  a := 0x6a09e667
  b := 0xbb67ae85
  c := 0x3c6ef372
  d := 0xa54ff53a
  e := 0x510e527f
  f := 0x9b05688c
  g := 0x1f83d9ab
  h := 0x5be0cd19

/-- The states added word by word. -/
def State.add (first second : State) : State where
  a := first.a + second.a
  b := first.b + second.b
  c := first.c + second.c
  d := first.d + second.d
  e := first.e + second.e
  f := first.f + second.f
  g := first.g + second.g
  h := first.h + second.h

/-- A word turned to the right by a number of bits between one and
thirty-one. -/
def rotateRight (word count : UInt32) : UInt32 :=
  (word >>> count) ||| (word <<< (32 - count))

/-- The mix of a word fifteen places back in the schedule. -/
def smallSigma0 (word : UInt32) : UInt32 :=
  rotateRight word 7 ^^^ rotateRight word 18 ^^^ (word >>> 3)

/-- The mix of a word two places back in the schedule. -/
def smallSigma1 (word : UInt32) : UInt32 :=
  rotateRight word 17 ^^^ rotateRight word 19 ^^^ (word >>> 10)

/-- The mix of the first word of the state in a round. -/
def bigSigma0 (word : UInt32) : UInt32 :=
  rotateRight word 2 ^^^ rotateRight word 13 ^^^ rotateRight word 22

/-- The mix of the fifth word of the state in a round. -/
def bigSigma1 (word : UInt32) : UInt32 :=
  rotateRight word 6 ^^^ rotateRight word 11 ^^^ rotateRight word 25

/-- Bits of the second word where the first has ones, else of the third. -/
def choose (first second third : UInt32) : UInt32 :=
  (first &&& second) ^^^ (~~~first &&& third)

/-- The bits that most of three words have. -/
def majority (first second third : UInt32) : UInt32 :=
  (first &&& second) ^^^ (first &&& third) ^^^ (second &&& third)

/-- The next word of the schedule, from those before it with the latest
first. -/
def nextWord (latestFirst : List UInt32) : UInt32 :=
  smallSigma1 (latestFirst.getD 1 0) + latestFirst.getD 6 0 +
    smallSigma0 (latestFirst.getD 14 0) + latestFirst.getD 15 0

/-- A schedule, latest word first, with a number of words more. -/
def extend : Nat -> List UInt32 -> List UInt32
  | 0, latestFirst => latestFirst
  | count + 1, latestFirst =>
      extend count (nextWord latestFirst :: latestFirst)

/-- The sixty-four words of the schedule of a block of sixteen. -/
def schedule (block : List UInt32) : List UInt32 :=
  (extend 48 block.reverse).reverse

/-- One round, with its constant and its word of the schedule. -/
def round (state : State) (input : UInt32 × UInt32) : State :=
  let first :=
    state.h + bigSigma1 state.e + choose state.e state.f state.g + input.1 +
      input.2
  let second := bigSigma0 state.a + majority state.a state.b state.c
  { a := first + second
    b := state.a
    c := state.b
    d := state.c
    e := state.d + first
    f := state.e
    g := state.f
    h := state.g }

/-- The state after a block. -/
def compress (state : State) (block : List UInt32) : State :=
  ((roundConstants.zip (schedule block)).foldl round state).add state

/-- The words of octets, four octets a word. -/
def words : List UInt8 -> List UInt32
  | first :: second :: third :: fourth :: rest =>
      ((first.toUInt32 <<< 24) ||| (second.toUInt32 <<< 16) |||
        (third.toUInt32 <<< 8) ||| fourth.toUInt32) :: words rest
  | _ => []

/-- The octets of a number that takes a number of octets. -/
def bigEndian (count number : Nat) : List UInt8 :=
  (List.range count).reverse.map fun place =>
    UInt8.ofNat (number / Nat.pow 256 place % 256)

/-- The message followed by a one bit, zeros up to eight octets before the end
of a block, and its length in bits. -/
def pad (message : List UInt8) : List UInt8 :=
  message ++ 0x80 :: List.replicate ((119 - message.length % 64) % 64) 0 ++
    bigEndian 8 (8 * message.length)

/-- The state after a number of blocks. -/
def absorb : Nat -> State -> List UInt32 -> State
  | 0, state, _ => state
  | count + 1, state, input =>
      absorb count (compress state (input.take 16)) (input.drop 16)

/-- The octets of a word. -/
def wordOctets (word : UInt32) : List UInt8 :=
  [(word >>> 24).toUInt8, (word >>> 16).toUInt8, (word >>> 8).toUInt8,
    word.toUInt8]

/-- The octets of a state. -/
def State.octets (state : State) : List UInt8 :=
  [state.a, state.b, state.c, state.d, state.e, state.f, state.g,
    state.h].flatMap wordOctets

/-- The digest of a message. -/
def digest (message : List UInt8) : List UInt8 :=
  let padded := pad message
  (absorb (padded.length / 64) initialState (words padded)).octets

@[simp] theorem length_digest (message : List UInt8) :
    (digest message).length = 32 := rfl

end Sha256
end BookLookup
