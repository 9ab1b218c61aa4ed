import TemplateLint.Text.Basic
/-!
# Text — how alike two words are

Two words are compared by their longest common block, then by the longest
common blocks on its two sides, and so on; the likeness is the share of
characters in such blocks. Of several longest blocks the first counts. In
a long word the characters that occur very often begin no block, but a
block may grow over them. `closest?` picks, of some candidates, the one
most like a misspelt word.
-/

namespace TemplateLint

namespace Similarity

/-- The characters that occur too often in a long word to begin a
block. -/
def isCommon (word : Text) (c : Char) : Bool :=
  word.length ≥ 200 && word.count c > word.length / 100 + 1

/-- The length of the common start of two texts, as far as its characters
are of a class. -/
def commonStart (p : Char → Bool) : Text → Text → Nat
  | c :: s, d :: t => if c = d && p c then commonStart p s t + 1 else 0
  | _, _ => 0

/-- A block common to two texts: its place in each, and its length. -/
structure Block where
  first : Nat
  second : Nat
  length : Nat
  deriving DecidableEq, Repr

/-- The longer of two blocks, the earlier one if they are of one
length. -/
def Block.longer (a b : Block) : Block :=
  if b.length > a.length then b else a

/-- The lengths of the common blocks that start at the first character of
a text and at each place of another. `below` holds those that start one
character later in the first text. -/
def lengthsFrom (p : Char → Bool) (c : Char) : Text → List Nat → List Nat
  | d :: t, _ :: below =>
    (if c = d && p c then below.headD 0 + 1 else 0) :: lengthsFrom p c t below
  | _, _ => [0]

/-- The longest of the blocks that start at one place of a first text. -/
def longestAt (first : Nat) (lengths : List Nat) : Block :=
  lengths.zipIdx.foldl (fun best (length, second) => best.longer ⟨first, second, length⟩)
    ⟨first, 0, 0⟩

/-- The longest common block, where what is left of the first text starts
at a place of it, and the lengths of the blocks that start there. -/
def longestFrom (p : Char → Bool) (t : Text) : Nat → Text → Block × List Nat
  | first, [] => (⟨first, 0, 0⟩, List.replicate (t.length + 1) 0)
  | first, c :: s =>
    let (best, below) := longestFrom p t (first + 1) s
    let lengths := lengthsFrom p c t below
    ((longestAt first lengths).longer best, lengths)

/-- A block grown to both sides over equal characters. -/
def Block.grown (s t : Text) (b : Block) : Block :=
  let before := commonStart (fun _ => true) (s.take b.first).reverse (t.take b.second).reverse
  let after := commonStart (fun _ => true) (s.drop (b.first + b.length))
    (t.drop (b.second + b.length))
  ⟨b.first - before, b.second - before, before + b.length + after⟩

/-- The longest common block of two texts. -/
def longestBlock (p : Char → Bool) (s t : Text) : Block :=
  (longestFrom p t 0 s).1.grown s t

/-- The number of characters in common blocks. Each block leaves a shorter
first text on either side, so its length bounds the depth. -/
def matchedFrom (p : Char → Bool) : Nat → Text → Text → Nat
  | 0, _, _ => 0
  | depth + 1, s, t =>
    let b := longestBlock p s t
    if b.length = 0 then 0
    else
      b.length + matchedFrom p depth (s.take b.first) (t.take b.second)
        + matchedFrom p depth (s.drop (b.first + b.length)) (t.drop (b.second + b.length))

/-- The number of characters of a candidate in blocks common with a
word. -/
def matched (candidate word : Text) : Nat :=
  let common := (word.eraseDups.filter fun c => isCommon word c)
  matchedFrom (fun c => !common.contains c) (candidate.length + 1) candidate word

/-- A candidate with its likeness: the characters in common blocks, and
the number of pairs of characters that could be. -/
structure Score where
  candidate : String
  matched : Nat
  total : Nat
  deriving DecidableEq, Repr

namespace Score

/-- The score of a candidate. Two empty words are alike. -/
def of (word : Text) (candidate : String) : Score :=
  let total := candidate.toList.length + word.length
  if total = 0 then ⟨candidate, 1, 2⟩
  else ⟨candidate, Similarity.matched candidate.toList word, total⟩

/-- At least six tenths of the characters are in common blocks. -/
def isClose (s : Score) : Bool :=
  10 * s.matched ≥ 3 * s.total

/-- A score is below another, or as high with a name that sorts no
later. -/
def le (a b : Score) : Bool :=
  a.matched * b.total < b.matched * a.total
    || (a.matched * b.total == b.matched * a.total && a.candidate ≤ b.candidate)

end Score

/-- The candidate most like a word, of those that are close. -/
def closest? (word : Text) (candidates : List String) : Option String :=
  let scores := (candidates.map (Score.of word)).filter Score.isClose
  (scores.foldl (fun best s =>
    match best with
    | none => some s
    | some b => if s.le b then best else some s) none).map (·.candidate)

/-- The candidates most like a word, of those that are close: three at
most, sorted by name. -/
def close (word : Text) (candidates : List String) : List String :=
  let scores := (candidates.map (Score.of word)).filter Score.isClose
  let best := (scores.mergeSort fun a b => b.le a).take 3
  (best.map (·.candidate)).mergeSort fun a b => decide (a ≤ b)

end Similarity

end TemplateLint
