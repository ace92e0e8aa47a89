import Mathlib.Order.Defs.LinearOrder

/-!
# Integer types of a machine

An integer type is known by its least and its greatest value.  A result that
is no value of the type is not to be had.
-/

namespace CheckedIntegers

/-- The values of a type, zero among them. -/
structure IntegerType where
  least : Int
  greatest : Int
  least_le_zero : least ≤ 0
  zero_le_greatest : 0 ≤ greatest

namespace IntegerType

variable (type : IntegerType)

/-- The value of the type that is the result of an operation, if it has
one. -/
def result (exact : Int) : Option Int :=
  if type.least ≤ exact ∧ exact ≤ type.greatest then some exact else none

variable {type} {exact : Int}

theorem result_of_between (aboveLeast : type.least ≤ exact)
    (belowGreatest : exact ≤ type.greatest) :
    type.result exact = some exact := by
  rw [result, if_pos ⟨aboveLeast, belowGreatest⟩]

/-- A natural number is in the type when it is not too large. -/
theorem result_natCast {value : Nat} (fits : value ≤ type.greatest) :
    type.result value = some (value : Int) :=
  result_of_between
    (Int.le_trans type.least_le_zero (Int.natCast_nonneg value)) fits

end IntegerType

end CheckedIntegers
