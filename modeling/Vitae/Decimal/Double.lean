/-!
Whole numbers in double precision: 53 binary places, a half going to the even neighbour.
-/

namespace Vitae.Decimal

/-- The double nearest to a whole number; of two as near, the one whose last place is even. -/
def nearestDouble (value : Nat) : Nat :=
  let unit := Nat.pow 2 (value.log2 - 52)
  let below := value / unit
  let rest := value % unit
  if 2 * rest < unit ∨ 2 * rest = unit ∧ below % 2 = 0 then below * unit else (below + 1) * unit

/-- Half a place above the largest double, where rounding to infinity begins. -/
def doubleBound : Nat :=
  Nat.pow 2 1024 - Nat.pow 2 970

end Vitae.Decimal
