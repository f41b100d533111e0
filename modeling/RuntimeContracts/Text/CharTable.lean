/-!
# Tables of characters

A property of characters is given as a table of ranges of code points, ends included, in
ascending order.
-/
namespace RuntimeContracts

/-- A set of characters, as ranges of code points. -/
structure CharTable where
  ranges : List (Nat × Nat)

namespace CharTable

def contains (table : CharTable) (c : Char) : Bool :=
  table.ranges.any fun (least, greatest) => decide (least ≤ c.toNat ∧ c.toNat ≤ greatest)

theorem contains_iff {table : CharTable} {c : Char} :
    table.contains c = true ↔ ∃ r ∈ table.ranges, r.1 ≤ c.toNat ∧ c.toNat ≤ r.2 := by
  simp [contains]

end CharTable

end RuntimeContracts
