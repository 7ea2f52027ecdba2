import ClusterCapacity.Decimal.Binary64

/-!
# Similar words

The similarity of two words is between zero and one: the mean of the share of each word's characters
that the other one has close by, and the share of those that stand in the same order.  Every
step is rounded to a binary64 number.
-/

namespace ClusterCapacity.Text

open Decimal

/-- How far apart characters of words of these lengths may stand and still match. -/
def matchReach (a b : Nat) : Nat := max a b / 2 - 1

/-- The first position from `start` on, below `stop`, that holds `c` and is not taken. -/
def matchPosition? (c : Char) (word : List Char) (taken : List Nat) (start stop : Nat) :
    Option Nat :=
  ((List.range stop).drop start).find? (fun j => word[j]? = some c && !taken.contains j)

/-- The positions in `second` that the characters of `first`, from position `i` on, match in turn;
with the characters that do, both lists the last one first. -/
def matchFrom (reach : Nat) (second : List Char) :
    Nat → List Char → List Nat → List Char → List Nat × List Char
  | _, [], taken, matched => (taken, matched)
  | i, c :: rest, taken, matched =>
    match matchPosition? c second taken (i - reach) (min second.length (i + reach + 1)) with
    | some j => matchFrom reach second (i + 1) rest (j :: taken) (c :: matched)
    | none => matchFrom reach second (i + 1) rest taken matched

/-- The similarity of two words. -/
def similarity (first second : List Char) : Binary64 :=
  if first.isEmpty && second.isEmpty then .ofNat 1
  else
    let (taken, matched) :=
      matchFrom (matchReach first.length second.length) second 0 first [] []
    let partners := ((List.range second.length).filter taken.contains).filterMap (second[·]?)
    let displaced := ((matched.reverse.zip partners).filter (fun (c, d) => c ≠ d)).length / 2
    let count := matched.length
    if count = 0 then .zero
    else
      let shares := (Binary64.ofRatio count first.length).add (.ofRatio count second.length)
      (shares.add (.ofRatio (count - displaced) count)).div (.ofNat 3)

/-- Words are similar if their similarity is above this. -/
def similarityBound : Binary64 := .ofRatio 7 10

/-- The candidate that is most similar to a word, the last one of equals, if one is similar. -/
def mostSimilar? (word : List Char) (candidates : List (List Char)) : Option (List Char) :=
  let better (best : Option (List Char × Binary64)) (candidate : List Char) :=
    let found := similarity word candidate
    match best with
    | none => if similarityBound.isBelow found then some (candidate, found) else none
    | some (_, most) => if found.isBelow most then best else some (candidate, found)
  (candidates.foldl better none).map Prod.fst

end ClusterCapacity.Text
