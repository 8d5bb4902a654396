/-!
A counter based random generator: twenty rounds that mix a counter of two words under a key of two
words. Keys are split into independent keys, and a key orders the numbers below a bound.
-/

namespace ProximalSplitting

structure RandomKey where
  high : UInt32
  low : UInt32
deriving DecidableEq

namespace Threefry

def rotateLeft (word : UInt32) (count : UInt32) : UInt32 :=
  (word <<< count) ||| (word >>> (32 - count))

def mix (state : UInt32 × UInt32) (rotation : UInt32) : UInt32 × UInt32 :=
  let first := state.1 + state.2
  (first, rotateLeft state.2 rotation ^^^ first)

def evenRotations : List UInt32 := [13, 15, 26, 6]

def oddRotations : List UInt32 := [17, 29, 16, 24]

def group (firstWord secondWord number : UInt32) (rotations : List UInt32)
    (state : UInt32 × UInt32) : UInt32 × UInt32 :=
  let mixed := rotations.foldl mix state
  (mixed.1 + firstWord, mixed.2 + secondWord + number)

def hash (key counter : RandomKey) : RandomKey :=
  let parity := key.high ^^^ key.low ^^^ 0x1BD11BDA
  let start := (counter.high + key.high, counter.low + key.low)
  let first := group key.low parity 1 evenRotations start
  let second := group parity key.high 2 oddRotations first
  let third := group key.high key.low 3 evenRotations second
  let fourth := group key.low parity 4 oddRotations third
  let fifth := group parity key.high 5 evenRotations fourth
  ⟨fifth.1, fifth.2⟩

end Threefry

namespace RandomKey

def ofSeed (seed : Int) : RandomKey :=
  let word : Nat := (seed % Int.pow 2 64).toNat
  ⟨UInt32.ofNat (word / Nat.pow 2 32), UInt32.ofNat word⟩

def split (key : RandomKey) : RandomKey × RandomKey :=
  (Threefry.hash key ⟨0, 0⟩, Threefry.hash key ⟨0, 1⟩)

def sortKey (key : RandomKey) (position : Nat) : UInt32 :=
  let word := Threefry.hash key ⟨0, UInt32.ofNat position⟩
  word.high ^^^ word.low

def sortByDrawing {α : Type} (drawing : RandomKey) (items : List α) : List α :=
  (items.zipIdx.mergeSort fun left right =>
    decide (drawing.sortKey left.2 ≤ drawing.sortKey right.2)).map Prod.fst

/-- How often a list has to be sorted so that equal random numbers hardly matter. -/
def sortingRounds (length : Nat) : Nat :=
  ((List.range 4).find? fun rounds => Nat.pow length 3 ≤ Nat.pow (Nat.pow 2 32 - 1) rounds).getD 4

def shuffle {α : Type} : (rounds : Nat) → RandomKey → List α → List α
  | 0, _, items => items
  | rounds + 1, key, items => shuffle rounds key.split.1 (sortByDrawing key.split.2 items)

def permutation (key : RandomKey) (bound : Nat) : List Nat :=
  shuffle (sortingRounds bound) key (List.range bound)

end RandomKey

end ProximalSplitting
