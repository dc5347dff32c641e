/-!
# Similar words

How much two words have in common: the longest piece that both contain, and what
they have in common before and behind it. A word is similar to another when the
common pieces make up three fifths of both together.
-/

namespace IgnoreRules.Similarity

/-- How many characters two texts have in common at the start. -/
def commonStart : List Char → List Char → Nat
  | a :: as, b :: bs => if a = b then commonStart as bs + 1 else 0
  | _, _ => 0

/-- A piece that two words have in common. -/
structure Match where
  /-- Where it starts in the first word. -/
  first : Nat
  /-- Where it starts in the second word. -/
  second : Nat
  /-- How long it is. -/
  size : Nat

/-- The longest common piece; of equally long ones the one that starts first in the
first word, and then in the second. -/
def longestMatch (a b : List Char) : Match :=
  let starts := (List.range a.length).flatMap fun i => (List.range b.length).map fun j => (i, j)
  starts.foldl
    (fun best (i, j) =>
      let size := commonStart (a.drop i) (b.drop j)
      if best.size < size then ⟨i, j, size⟩ else best)
    ⟨0, 0, 0⟩

/-- How many characters the common pieces have; each piece uses up a unit of fuel. -/
def commonWithin : Nat → List Char → List Char → Nat
  | 0, _, _ => 0
  | fuel + 1, a, b =>
      let best := longestMatch a b
      if best.size = 0 then 0
      else
        commonWithin fuel (a.take best.first) (b.take best.second) + best.size +
          commonWithin fuel (a.drop (best.first + best.size)) (b.drop (best.second + best.size))

/-- How many characters the common pieces have. -/
def common (a b : List Char) : Nat :=
  commonWithin a.length a b

/-- A word of the vocabulary compared with another word. -/
structure Score where
  /-- The word. -/
  word : List Char
  /-- How many characters are in common. -/
  common : Nat
  /-- How many characters both words have together. -/
  total : Nat

/-- The first word is the better one, or comes later in the alphabet. -/
def Score.precedes (a b : Score) : Bool :=
  let (x, y) := (a.common * b.total, b.common * a.total)
  y < x || (x = y && !decide (a.word < b.word))

/-- How many similar words are of interest. -/
def maxSimilar : Nat :=
  3

/-- The words of a vocabulary that are most similar to a word, in alphabetical
order. -/
def similarWords (word : List Char) (vocabulary : List (List Char)) : List (List Char) :=
  let scores := vocabulary.map fun known =>
    ({ word := known, common := common known word
       total := known.length + word.length } : Score)
  let good := scores.filter fun score => 3 * score.total ≤ 10 * score.common
  (((good.mergeSort Score.precedes).take maxSimilar).map (·.word)).mergeSort fun a b =>
    !decide (b < a)

end IgnoreRules.Similarity
