import PanelPuzzle.Number.Basic
/-!
# Random draws

Everything that is left to chance is read from a stream of 32-bit words.  The stream is data, so
that a statement about every run of the generator is a statement about every stream.

* `Draws` — a stream of words in blocks of sixteen and the position of the next word.  The block
  of that position is kept at hand.
* `Draws.below`, `Draws.between`, `Draws.inRange` — a number from a range, unbiased up to the words that it takes.
* `Draws.chance`, `Draws.choose`, `Draws.shuffle` — a coin, a member of a list, an order.

No operation skips a word, and each says which words it takes.
-/

namespace PanelPuzzle

/-- A stream of random words, and how far it has been read. -/
structure Draws where
  /-- The words of the stream, sixteen at a time. -/
  block : Nat → Vector UInt32 16
  /-- The number of words that have been taken. -/
  position : Nat := 0
  /-- The block of the next word. -/
  current : Vector UInt32 16 := block (position / 16)
  current_eq : current = block (position / 16) := by rfl

namespace Draws

/-- The word of a stream at a position. -/
def word (d : Draws) (position : Nat) : UInt32 := (d.block (position / 16))[position % 16]

/-- The stream with given words, from its start. -/
def ofWords (word : Nat → UInt32) : Draws where
  block n := Vector.ofFn fun i => word (16 * n + i)

/-- The stream one word further on. -/
def advance (d : Draws) : Draws where
  block := d.block
  position := d.position + 1
  current := if (d.position + 1) % 16 = 0 then d.block ((d.position + 1) / 16) else d.current
  current_eq := by
    split
    · rfl
    · have same : (d.position + 1) / 16 = d.position / 16 := by omega
      rw [d.current_eq, same]

/-- Takes the next word. -/
def next : StateM Draws UInt32 := fun d => (d.current[d.position % 16], d.advance)

theorem next_fst (d : Draws) : (next d).1 = d.word d.position := by
  simp [next, word, d.current_eq]

theorem position_next (d : Draws) : (next d).2.position = d.position + 1 := rfl

theorem word_next (d : Draws) (n : Nat) : (next d).2.word n = d.word n := rfl

theorem word_ofWords (word : Nat → UInt32) (n : Nat) : (ofWords word).word n = word n := by
  simp [ofWords, Draws.word, Nat.div_add_mod]

/-- The number of different words. -/
def wordCount : Nat := 4294967296

/-- Takes two words as one number of 64 bits, the lower half first. -/
def next64 : StateM Draws Nat := do
  let low ← next
  let high ← next
  pure (high.toNat * wordCount + low.toNat)

/-! ## Numbers -/

/-- **A number below `span`,** or any word if `span` is zero.  A word is scaled to the span; where
the fraction of the product is so large that the word of lower weight may carry, that word is
drawn too. -/
def below (span : Nat) : StateM Draws Nat := do
  let word ← next
  if span = 0 then pure word.toNat
  else
    let product := word.toNat * span
    let whole := product / wordCount
    let fraction := product % wordCount
    if wordCount - span < fraction then
      let lower ← next
      let carry := lower.toNat * span / wordCount
      pure (if wordCount ≤ fraction + carry then whole + 1 else whole)
    else pure whole

/-- A number from `low` to `high`, both included. -/
def between (low high : Int) : StateM Draws Int := do
  let offset ← below ((high - low + 1).toNat % wordCount)
  pure (low + offset)

/-- A natural number from `low` to `high`, both included. -/
def inRange (low high : Nat) : StateM Draws Nat := do
  let offset ← below (high - low + 1)
  pure (low + offset)

/-- The number of 64-bit words, of all of them, for which a chance comes true. -/
def threshold (probability : Number) : Nat :=
  match probability.toRat? with
  | some p => (p * 18446744073709551616).floor.toNat
  | none => 0

/-- Whether a chance comes true.  Certainty takes no word, impossibility does. -/
def chance (probability : Number) : StateM Draws Bool :=
  if probability.same 1 then pure true
  else do
    let word ← next64
    pure (word < threshold probability)

/-! ## Lists -/

/-- A member of a list; the empty list has none and takes no word. -/
def choose {α : Type} (items : List α) : StateM Draws (Option α) :=
  if items.length = 0 then pure none
  else do
    let i ← below items.length
    pure items[i]?

/-- Several small numbers that come out of one draw: what is left of the drawn number, and how
many numbers are left in it. -/
structure Chunk where
  value : Nat
  left : Nat

/-- The product of consecutive factors from `factor` on, as long as it is less than the number of
words, times a product of `count` factors; and how many factors there are then. -/
def chunkSize : Nat → Nat → Nat → Nat → Nat × Nat
  | 0, product, _, count => (product, count)
  | fuel + 1, product, factor, count =>
    if product * factor < wordCount then chunkSize fuel (product * factor) (factor + 1) (count + 1)
    else (product, count)

/-- A number up to `i`, out of a chunk.  When nothing is left, a new chunk is drawn that holds as
many numbers as one word has room for, the next ones with ever larger bounds. -/
def nextIndex (i : Nat) (chunk : Chunk) : StateM Draws (Nat × Chunk) := do
  let chunk ←
    if chunk.left = 0 then do
      let (product, count) := chunkSize 16 (i + 1) (i + 2) 1
      let value ← below product
      pure ⟨value, count⟩
    else pure chunk
  if chunk.left = 1 then pure (chunk.value, ⟨chunk.value, 0⟩)
  else pure (chunk.value % (i + 1), ⟨chunk.value / (i + 1), chunk.left - 1⟩)

/-- Exchanges each of the `count` items from `i` on with an item up to it. -/
def shuffleFrom {α : Type} : Nat → Nat → Chunk → Array α → StateM Draws (Array α)
  | 0, _, _, items => pure items
  | count + 1, i, chunk, items => do
    let (j, chunk) ← nextIndex i chunk
    shuffleFrom count (i + 1) chunk (items.swapIfInBounds i j)

/-- **The items of a list in a random order.**  The first item is exchanged with itself, for which
no word is taken. -/
def shuffle {α : Type} (items : List α) : StateM Draws (List α) :=
  if items.length ≤ 1 then pure items
  else do
    let shuffled ← shuffleFrom items.length 0 ⟨0, 1⟩ items.toArray
    pure shuffled.toList

end Draws

end PanelPuzzle
