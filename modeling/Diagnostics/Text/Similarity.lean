/-!
# Similar words

Two words are compared by the characters they share: the longest stretch that occurs in both, and
then the same again to the left and to the right of it. Words are close if the shared characters
make up three fifths of both words together.
-/

namespace Diagnostics.Text

/-- The length of the longest common beginning. -/
def commonStart : List Char → List Char → Nat
  | a :: as, b :: bs => if a = b then commonStart as bs + 1 else 0
  | _, _ => 0

/-- A stretch that two words share: where it begins in each, and its length. -/
structure Stretch where
  left : Nat
  right : Nat
  length : Nat

/-- The longer of two stretches, the first if they are equally long. -/
def Stretch.longer (s t : Stretch) : Stretch :=
  if s.length < t.length then t else s

/-- The longest shared stretch; of several, the one that begins first in `a` and then in `b`. -/
def longestStretch (a b : List Char) : Stretch :=
  (List.range a.length).foldl (fun best i =>
    (List.range b.length).foldl (fun best j =>
      best.longer ⟨i, j, commonStart (a.drop i) (b.drop j)⟩) best) ⟨0, 0, 0⟩

/-- The number of characters that two words share, dividing them at most `fuel` times. -/
def sharedWithin : Nat → List Char → List Char → Nat
  | 0, _, _ => 0
  | fuel + 1, a, b =>
    let s := longestStretch a b
    if s.length = 0 then 0
    else
      s.length + sharedWithin fuel (a.take s.left) (b.take s.right) +
        sharedWithin fuel (a.drop (s.left + s.length)) (b.drop (s.right + s.length))

/-- The number of characters that two words share. Each division takes a character off the first
word, so its length bounds them. -/
def shared (a b : String) : Nat :=
  sharedWithin a.length a.toList b.toList

/-- Whether two words are close. -/
def areClose (a b : String) : Bool :=
  3 * (a.length + b.length) ≤ 10 * shared a b

/-- Whether `a` is at least as similar to a word as `b` is; equally similar words are ordered. -/
def atLeastAsSimilar (word a b : String) : Bool :=
  let x := shared a word * (b.length + word.length)
  let y := shared b word * (a.length + word.length)
  decide (y < x) || x == y && decide (b ≤ a)

/-- The words close to a word, at most three and the most similar ones, in alphabetical order. -/
def closeWords (word : String) (words : List String) : List String :=
  (((words.filter (areClose · word)).mergeSort (atLeastAsSimilar word)).take 3).mergeSort
    fun a b => decide (a ≤ b)

end Diagnostics.Text
