/-!
How alike two texts are: twice the number of characters in their matching blocks over the sum of
their lengths. The first block is the longest common block, the leftmost one if several are as
long; the other blocks are found in the same way on both sides of it.
-/

namespace Tabsmith.Text

/-- A common block of two texts: where it starts in each, and its length. -/
structure Block where
  left : Nat
  right : Nat
  size : Nat
deriving DecidableEq, Repr

/-- The lengths of the common blocks that end at `c` and at each character of the second text,
given those that end one character earlier in the first. A character that `skip` selects starts
no block and prolongs none. -/
def blockRow (skip : Char → Bool) (c : Char) : (previous : Nat) → List Char → List Nat → List Nat
  | _, [], _ => []
  | previous, d :: rest, row =>
    (if c = d && !skip d then previous + 1 else 0) ::
      blockRow skip c (row.headD 0) rest row.tail

/-- The better of `best` and the blocks that end at index `i` of the first text, in the order of
their ends in the second; only a longer block replaces an earlier one. -/
def bestOfRow (i : Nat) : (j : Nat) → List Nat → Block → Block
  | _, [], best => best
  | j, size :: rest, best =>
    bestOfRow i (j + 1) rest
      (if best.size < size then ⟨i + 1 - size, j + 1 - size, size⟩ else best)

/-- The longest common block, over the rows from index `i` of the first text on. -/
def longestFrom (skip : Char → Bool) (second : List Char) :
    (i : Nat) → List Char → List Nat → Block → Block
  | _, [], _, best => best
  | i, c :: rest, row, best =>
    let row := blockRow skip c 0 second row
    longestFrom skip second (i + 1) rest row (bestOfRow i 0 row best)

/-- The number of leading characters that two texts share. -/
def sharedLead : List Char → List Char → Nat
  | a :: s, b :: t => if a = b then sharedLead s t + 1 else 0
  | _, _ => 0

/-- The longest common block that has an unskipped character, or the empty block at the start of
both texts, prolonged on both sides with equal characters. -/
def longestBlock (skip : Char → Bool) (first second : List Char) : Block :=
  let block := longestFrom skip second 0 first [] ⟨0, 0, 0⟩
  let back := sharedLead (first.take block.left).reverse (second.take block.right).reverse
  let ahead := sharedLead (first.drop (block.left + block.size)) (second.drop (block.right + block.size))
  ⟨block.left - back, block.right - back, block.size + back + ahead⟩

/-- The number of characters in matching blocks; `fuel` bounds the blocks on the way to any one. -/
def matchedWithin (skip : Char → Bool) : (fuel : Nat) → List Char → List Char → Nat
  | 0, _, _ => 0
  | fuel + 1, first, second =>
    let block := longestBlock skip first second
    if block.size = 0 then 0
    else block.size + matchedWithin skip fuel (first.take block.left) (second.take block.right) +
      matchedWithin skip fuel (first.drop (block.left + block.size))
        (second.drop (block.right + block.size))

/-- In a text of two hundred characters or more, those that make up over a hundredth of it start
no block. -/
def popular (second : List Char) : List Char :=
  if second.length < 200 then []
  else second.eraseDups.filter fun c => second.length / 100 + 1 < second.count c

/-- The number of characters of `first` that match one of `second`. -/
def matched (first second : List Char) : Nat :=
  let unfit := popular second
  matchedWithin unfit.contains (first.length + 1) first second

/-- The likeness of a known text to a searched one, as a fraction: a numerator and a denominator
that is not zero. Two empty texts are wholly alike. -/
def likeness (known searched : String) : Nat × Nat :=
  let total := known.length + searched.length
  if total = 0 then (1, 1) else (2 * matched known.toList searched.toList, total)

/-- `b` is a better find than `a`: more alike, or as alike and later in the order of texts. -/
def isBetter (a b : (Nat × Nat) × String) : Bool :=
  let left := a.1.1 * b.1.2
  let right := b.1.1 * a.1.2
  left < right || (left == right && a.2 < b.2)

/-- The known text most like the searched one, among those alike by three fifths at least. -/
def closest? (searched : String) (known : List String) : Option String :=
  let finds := (known.map fun text => (likeness text searched, text)).filter
    fun find => 3 * find.1.2 ≤ 5 * find.1.1
  (finds.foldl (fun best find =>
    match best with
    | none => some find
    | some found => if isBetter found find then some find else best) none).map (·.2)

end Tabsmith.Text
