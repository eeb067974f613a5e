/-!
Tables of code points, kept as increasing lists of closed ranges.
-/

namespace Tabsmith.Text

/-- A code point is in a table when one of the table's ranges holds it. -/
def inRanges (table : List (Nat × Nat)) (c : Char) : Bool :=
  table.any fun range => range.1 ≤ c.toNat && c.toNat ≤ range.2

theorem inRanges_iff {table : List (Nat × Nat)} {c : Char} :
    inRanges table c = true ↔ ∃ range ∈ table, range.1 ≤ c.toNat ∧ c.toNat ≤ range.2 := by
  simp [inRanges]

end Tabsmith.Text
