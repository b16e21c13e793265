/-!
# A seeded stream of random numbers

The Mersenne twister with words of 32 bits: a state of 624 words that is stirred as a whole whenever
its words are used up. A seed may be an integer of any size; its sign does not matter.

Main statement: `below_lt` (a number drawn below a positive bound is below it).
-/

set_option autoImplicit false

namespace ExactCover

/-- The words of the generator, and the place of the next one to be given out. -/
structure Twister where
  words : Array UInt32
  place : Nat

namespace Twister

/-- The number of words in the state. -/
def wordCount : Nat := 624

/-- How far ahead the word stands that a word is combined with. -/
def reach : Nat := 397

instance : Inhabited Twister := ⟨⟨#[], 0⟩⟩

/-- The number of values of a word. -/
def wordValues : Nat := 4294967296

/-! ## Seeding -/

/-- Mixes the upper bits of a word into its lower bits. -/
def folded (word : UInt32) : UInt32 := word ^^^ (word >>> 30)

/-- The words that seeding starts from. -/
def initialWords : Array UInt32 :=
  (List.range (wordCount - 1)).foldl (fun words place =>
    words.push (1812433253 * folded (words.getD place 0) + UInt32.ofNat (place + 1)))
    #[19650218]

/-- The words of a natural number, the lowest first; there is at least one. -/
def seedWords (seed : Nat) : List UInt32 :=
  if seed < wordValues then [UInt32.ofNat seed]
  else UInt32.ofNat (seed % wordValues) :: seedWords (seed / wordValues)
termination_by seed
decreasing_by
  simp only [wordValues] at *
  exact Nat.div_lt_self (by omega) (by decide)

/-- Copies the last word to the front and goes back to place 1 when the end is reached. -/
def wrapped (words : Array UInt32) (place : Nat) : Array UInt32 × Nat :=
  if place < wordCount then (words, place)
  else (words.setIfInBounds 0 (words.getD (wordCount - 1) 0), 1)

/-- Stirs a key into the words. -/
def stirKey (key : Array UInt32) : Nat → Array UInt32 × Nat × Nat → Array UInt32 × Nat × Nat
  | 0, state => state
  | rounds + 1, (words, place, turn) =>
      let mixed := (words.getD place 0 ^^^ (folded (words.getD (place - 1) 0) * 1664525)) +
        key.getD turn 0 + UInt32.ofNat turn
      let (words, place) := wrapped (words.setIfInBounds place mixed) (place + 1)
      stirKey key rounds (words, place, if turn + 1 < key.size then turn + 1 else 0)

/-- Stirs the words among themselves. -/
def stirPlaces : Nat → Array UInt32 × Nat → Array UInt32
  | 0, (words, _) => words
  | rounds + 1, (words, place) =>
      let mixed := (words.getD place 0 ^^^ (folded (words.getD (place - 1) 0) * 1566083941)) -
        UInt32.ofNat place
      stirPlaces rounds (wrapped (words.setIfInBounds place mixed) (place + 1))

/-- The generator of a seed. -/
def ofSeed (seed : Int) : Twister :=
  let key := (seedWords seed.natAbs).toArray
  let (words, place, _) := stirKey key (max wordCount key.size) (initialWords, 1, 0)
  let words := stirPlaces (wordCount - 1) (words, place)
  ⟨words.setIfInBounds 0 0x80000000, wordCount⟩

/-! ## Drawing -/

/-- The new word of a place. -/
def twistedWord (words : Array UInt32) (place : Nat) : UInt32 :=
  let joined := (words.getD place 0 &&& 0x80000000) |||
    (words.getD ((place + 1) % wordCount) 0 &&& 0x7FFFFFFF)
  let carried : UInt32 := if joined &&& 1 = 0 then 0 else 0x9908B0DF
  words.getD ((place + reach) % wordCount) 0 ^^^ (joined >>> 1) ^^^ carried

/-- Stirs the state, word by word. -/
def twist (words : Array UInt32) : Array UInt32 :=
  (List.range wordCount).foldl (fun words place => words.setIfInBounds place (twistedWord words place)) words

/-- The last mixing of a word before it is given out. -/
def temper (word : UInt32) : UInt32 :=
  let word := word ^^^ (word >>> 11)
  let word := word ^^^ ((word <<< 7) &&& 0x9D2C5680)
  let word := word ^^^ ((word <<< 15) &&& 0xEFC60000)
  word ^^^ (word >>> 18)

/-- The next word. -/
def word (state : Twister) : UInt32 × Twister :=
  let ⟨words, place⟩ := state
  if place < wordCount then (temper (words.getD place 0), ⟨words, place + 1⟩)
  else
    let words := twist words
    (temper (words.getD 0 0), ⟨words, 1⟩)

/-- The number of binary digits of a number. -/
def bitLength (number : Nat) : Nat := if number = 0 then 0 else number.log2 + 1

/-- The upper bits of the next word, at most 32 of them. -/
def bits (state : Twister) (count : Nat) : Nat × Twister :=
  let (drawn, state) := state.word
  (drawn.toNat / Nat.pow 2 (32 - count), state)

/-- More draws than are ever needed: each has a chance of at least one half to be good. -/
def patience : Nat := 10000

/-- Draws numbers of as many bits as the bound has until one is below it. -/
def belowFrom (bound : Nat) : Nat → Twister → Nat × Twister
  | 0, state => (0, state)
  | tries + 1, state =>
      let (number, state) := state.bits (bitLength bound)
      if number < bound then (number, state) else belowFrom bound tries state

/-- A number below a bound, all numbers being equally likely. -/
def below (state : Twister) (bound : Nat) : Nat × Twister := belowFrom bound patience state

theorem belowFrom_lt {bound : Nat} (positive : 0 < bound) (tries : Nat) (state : Twister) :
    (belowFrom bound tries state).1 < bound := by
  induction tries generalizing state with
  | zero => simpa [belowFrom] using positive
  | succ tries ih =>
      simp only [belowFrom]
      split
      · assumption
      · exact ih _

/-- **A number drawn below a positive bound is below it.** -/
theorem below_lt {bound : Nat} (positive : 0 < bound) (state : Twister) :
    (state.below bound).1 < bound :=
  belowFrom_lt positive patience state

end Twister

end ExactCover
