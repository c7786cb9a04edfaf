/-!
# Sets of code points as closed ranges

The character classes of this library are tables of the Unicode standard, version 14. A table is a
list of closed ranges; this file holds the one look-up that all of them share.
-/

namespace ViewportScaling.Unicode

/-- A set of code points, given by the first and last members of its runs. -/
abbrev Ranges := List (Nat × Nat)

/-- Whether a character lies in one of the ranges. -/
def Ranges.holds (ranges : Ranges) (c : Char) : Bool :=
  ranges.any fun range => range.1 ≤ c.toNat && c.toNat ≤ range.2

/-- A character is in some ranges just if its code is between the bounds of one of them. -/
theorem Ranges.holds_iff (ranges : Ranges) (c : Char) :
    ranges.holds c = true ↔ ∃ range ∈ ranges, range.1 ≤ c.toNat ∧ c.toNat ≤ range.2 := by
  simp [Ranges.holds]

end ViewportScaling.Unicode
