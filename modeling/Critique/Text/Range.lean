/-!
# Ranges of code points

A property of characters that a standard gives as a table is written here as a list of closed
intervals of code points.  `covers` is membership in such a table.
-/

namespace Critique.Text

/-- Does one of the intervals hold the character's code point? -/
def covers (table : List (Nat × Nat)) (c : Char) : Bool :=
  table.any fun (lo, hi) => lo ≤ c.toNat && c.toNat ≤ hi

theorem covers_iff {table : List (Nat × Nat)} {c : Char} :
    covers table c = true ↔ ∃ r ∈ table, r.1 ≤ c.toNat ∧ c.toNat ≤ r.2 := by
  simp [covers]

end Critique.Text
