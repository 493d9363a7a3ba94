import SuperChip.Random.Generator

/-!
# The Mersenne twister

The default random source is the Mersenne twister with a state of 624 words of
32 bits, seeded from the words of an integer.  The recurrence makes each new
word from three words of the state; doing so one word at a time, just before the
word is needed, gives the same stream as twisting the whole state at once.  The
machine takes the highest eight bits of each word.
-/

namespace SuperChip

/-- The words of the state and the place of the next one. -/
structure Twister where
  words : Vector UInt32 624
  place : Fin 624

namespace Twister

/-! ## Seeding -/

/-- The words of a number, the lowest first; zero has one word. -/
def seedWords (n : Nat) : List UInt32 :=
  if n < 0x100000000 then [UInt32.ofNat n]
  else UInt32.ofNat n :: seedWords (n / 0x100000000)
termination_by n
decreasing_by omega

/-- Fill the state from its second word on: each word is made from the one
before it. -/
def spread (words : Vector UInt32 624) : List (Fin 624) → Vector UInt32 624
  | [] => words
  | k :: rest =>
    let before := words[k - 1]
    spread (words.set k ((before ^^^ (before >>> 30)) * 1812433253 + UInt32.ofNat k.val)) rest

/-- The state made from one fixed word. -/
def base : Vector UInt32 624 :=
  spread (Vector.replicate 624 19650218) ((List.finRange 624).drop 1)

/-- The place behind another one in a round over all words but the first; at the
end of a round the last word is copied to the front. -/
def advance (words : Vector UInt32 624) (k : Fin 624) : Vector UInt32 624 × Fin 624 :=
  if k.val = 623 then (words.set 0 words[(623 : Fin 624)], 1) else (words, k + 1)

/-- Mix the words of a key into the state, each with its number in the key. -/
def mixKey (words : Vector UInt32 624) (k : Fin 624) :
    List (UInt32 × Nat) → Vector UInt32 624 × Fin 624
  | [] => (words, k)
  | (word, number) :: rest =>
    let before := words[k - 1]
    let mixed := (words[k] ^^^ ((before ^^^ (before >>> 30)) * 1664525)) + word +
      UInt32.ofNat number
    match advance (words.set k mixed) k with
    | (words, k) => mixKey words k rest

/-- Mix the state with itself, a number of words. -/
def mixSelf (words : Vector UInt32 624) (k : Fin 624) : Nat → Vector UInt32 624
  | 0 => words
  | count + 1 =>
    let before := words[k - 1]
    let mixed := (words[k] ^^^ ((before ^^^ (before >>> 30)) * 1566083941)) - UInt32.ofNat k.val
    match advance (words.set k mixed) k with
    | (words, k) => mixSelf words k count

/-- The words of a key, each with its number, repeated until the whole state
has been passed once. -/
def keySchedule (key : List UInt32) : List (UInt32 × Nat) :=
  let numbered := key.zipIdx
  let rounds := if key.length < 624 then 624 / key.length + 1 else 1
  ((List.replicate rounds numbered).flatten).take (max 624 key.length)

/-- The generator for a seed, of which the sign does not count. -/
def ofSeed (seed : Int) : Twister :=
  match mixKey base 1 (keySchedule (seedWords seed.natAbs)) with
  | (words, k) => ⟨(mixSelf words k 623).set 0 0x80000000, 0⟩

/-! ## Drawing -/

/-- The next word of the recurrence. -/
def twisted (words : Vector UInt32 624) (k : Fin 624) : UInt32 :=
  let joined := (words[k] &&& 0x80000000) ||| (words[k + 1] &&& 0x7FFFFFFF)
  words[k + 397] ^^^ (joined >>> 1) ^^^ (if joined &&& 1 = 0 then 0 else 0x9908B0DF)

/-- The output that belongs to a word of the state. -/
def tempered (word : UInt32) : UInt32 :=
  let word := word ^^^ (word >>> 11)
  let word := word ^^^ ((word <<< 7) &&& 0x9D2C5680)
  let word := word ^^^ ((word <<< 15) &&& 0xEFC60000)
  word ^^^ (word >>> 18)

/-- The next output. -/
def nextWord (t : Twister) : UInt32 × Twister :=
  let word := twisted t.words t.place
  (tempered word, ⟨t.words.set t.place word, t.place + 1⟩)

/-- The highest eight bits of the next output. -/
def nextByte (t : Twister) : Int × Twister :=
  match t.nextWord with
  | (word, t) => (((word >>> 24).toNat : Int), t)

instance : Generator Twister where
  next := nextByte

end Twister

/-- The random sources that a host can choose: a list that repeats, or the
default generator. -/
inductive RandomSource where
  | cycle (source : Cycle)
  | twister (source : Twister)

/-- The next integer of a source. -/
def RandomSource.next : RandomSource → Int × RandomSource
  | .cycle source =>
    match source.next with
    | (value, source) => (value, .cycle source)
  | .twister source =>
    match source.nextByte with
    | (value, source) => (value, .twister source)

instance : Generator RandomSource where
  next := RandomSource.next

end SuperChip
