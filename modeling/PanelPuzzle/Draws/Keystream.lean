import PanelPuzzle.Draws.Basic
/-!
# The stream of a seed

A seed of 64 bits determines a stream: it is expanded into a key of eight words by a congruential
sequence, and the stream is the ChaCha keystream of that key with twelve rounds, a block counter
from zero and no nonce.
-/

namespace PanelPuzzle.Keystream

/-- The state of a block: sixteen words in four rows of four. -/
abbrev State := Vector UInt32 16

/-- A word with its bits rotated to the left. -/
def rotate (word : UInt32) (by_ : UInt32) : UInt32 := (word <<< by_) ||| (word >>> (32 - by_))

/-- Mixes four words of a state. -/
def quarterRound (s : State) (a b c d : Fin 16) : State :=
  let s := s.set a (s[a] + s[b])
  let s := s.set d (rotate (s[d] ^^^ s[a]) 16)
  let s := s.set c (s[c] + s[d])
  let s := s.set b (rotate (s[b] ^^^ s[c]) 12)
  let s := s.set a (s[a] + s[b])
  let s := s.set d (rotate (s[d] ^^^ s[a]) 8)
  let s := s.set c (s[c] + s[d])
  s.set b (rotate (s[b] ^^^ s[c]) 7)

/-- Two rounds: the columns of a state, then its diagonals. -/
def doubleRound (s : State) : State :=
  let s := quarterRound s 0 4 8 12
  let s := quarterRound s 1 5 9 13
  let s := quarterRound s 2 6 10 14
  let s := quarterRound s 3 7 11 15
  let s := quarterRound s 0 5 10 15
  let s := quarterRound s 1 6 11 12
  let s := quarterRound s 2 7 8 13
  quarterRound s 3 4 9 14

/-- A number of double rounds. -/
def doubleRounds : Nat → State → State
  | 0, s => s
  | n + 1, s => doubleRounds n (doubleRound s)

/-- The first row of every state. -/
def constants : Vector UInt32 4 := #v[0x61707865, 0x3320646e, 0x79622d32, 0x6b206574]

/-- The last row: a block counter of two words and an empty nonce. -/
def counterRow (counter : Nat) : Vector UInt32 4 :=
  #v[UInt32.ofNat counter, UInt32.ofNat (counter / 4294967296), 0, 0]

/-- The state before the rounds: four constants, the key, the counter and the nonce. -/
def start (key : Vector UInt32 8) (counter : Nat) : State :=
  constants ++ key ++ counterRow counter

/-- A block of the keystream: the state after twelve rounds, added to the state before them. -/
def block (key : Vector UInt32 8) (counter : Nat) : Vector UInt32 16 :=
  let before := start key counter
  (doubleRounds 6 before).zipWith (· + ·) before

/-- One step of the congruential sequence that expands a seed. -/
def stepSeed (state : UInt64) : UInt64 := state * 6364136223846793005 + 11634580027462260723

/-- The word of the key that a state of the sequence stands for. -/
def keyWord (state : UInt64) : UInt32 :=
  let mixed := (((state >>> 18) ^^^ state) >>> 27).toUInt32
  let turn := (state >>> 59).toUInt32
  (mixed >>> turn) ||| (mixed <<< (32 - turn))

/-- The first states of the sequence after a seed. -/
def seedStates : Nat → UInt64 → List UInt64
  | 0, _ => []
  | n + 1, state => stepSeed state :: seedStates n (stepSeed state)

/-- The key of a seed. -/
def key (seed : UInt64) : Vector UInt32 8 :=
  let words := (seedStates 8 seed).map keyWord
  Vector.ofFn fun i => words.getD i 0

/-- **The draws of a seed.** -/
def draws (seed : UInt64) : Draws where
  block := block (key seed)

end PanelPuzzle.Keystream
