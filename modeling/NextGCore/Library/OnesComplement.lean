import Mathlib.Data.Nat.ModEq
import Mathlib.Tactic.Ring

/-!
# Sums with end-around carry

The carries of a sum of words are folded back into the word until none is left.  Folding does not
change the sum modulo the largest word, which is what makes the complement of the folded sum a
checksum.
-/

namespace NextGCore.Library

def foldCarries (width sum : ℕ) : ℕ :=
  if carried : 0 < width ∧ sum / 2 ^ width ≠ 0
  then foldCarries width (sum % 2 ^ width + sum / 2 ^ width)
  else sum
termination_by sum
decreasing_by
  have wide : 2 ≤ 2 ^ width := Nat.le_self_pow carried.1.ne' 2
  have positive : 0 < sum / 2 ^ width := Nat.pos_of_ne_zero carried.2
  have parts := Nat.div_add_mod sum (2 ^ width)
  have doubled : 2 * (sum / 2 ^ width) ≤ 2 ^ width * (sum / 2 ^ width) :=
    Nat.mul_le_mul_right _ wide
  omega

variable {width : ℕ}

end NextGCore.Library
