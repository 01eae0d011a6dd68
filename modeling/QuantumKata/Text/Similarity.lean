/-!
# Similarity of texts

Two texts are compared by their longest common block and, on both sides of it, by the longest common
blocks of what is left.  Twice the characters in common, over all characters, is how similar the
texts are.
-/

namespace QuantumKata.Text

/-- How many characters two texts begin with in common. -/
def commonStart : List Char → List Char → Nat
  | left :: lefts, right :: rights => if left = right then commonStart lefts rights + 1 else 0
  | _, _ => 0

/-- A block that two texts have in common: where it stands in both, and its length. -/
structure CommonBlock where
  left : Nat
  right : Nat
  length : Nat

/-- The longest common block, the earliest in the left text and then in the right one. -/
def longestBlock (left right : List Char) : CommonBlock :=
  (List.range left.length).foldl (fun best i =>
    (List.range right.length).foldl (fun best j =>
      let length := commonStart (left.drop i) (right.drop j)
      if best.length < length then ⟨i, j, length⟩ else best) best) ⟨0, 0, 0⟩

/-- The characters in common; the fuel bounds the blocks. -/
def commonWithin : (fuel : Nat) → List Char → List Char → Nat
  | 0, _, _ => 0
  | fuel + 1, left, right =>
    let block := longestBlock left right
    if block.length = 0 then 0
    else commonWithin fuel (left.take block.left) (right.take block.right) + block.length +
      commonWithin fuel (left.drop (block.left + block.length))
        (right.drop (block.right + block.length))

/-- The characters that two texts have in common. -/
def common (left right : String) : Nat :=
  commonWithin (left.length + 1) left.toList right.toList

/-- Whether at least six tenths of the characters of two texts are in common. -/
def isSimilar (left right : String) : Bool :=
  decide (6 * (left.length + right.length) ≤ 20 * common left right)

/-- Up to three of the texts that are similar to a word, the most similar first. -/
def similarTo (word : String) (texts : List String) : List String :=
  let found := texts.filter fun text => isSimilar text word
  let sorted := found.mergeSort fun left right =>
    let first := common left word * (right.length + word.length)
    let second := common right word * (left.length + word.length)
    if first = second then decide (right ≤ left) else decide (second < first)
  sorted.take 3

end QuantumKata.Text
