/-
  The shortest decimal inside an interval around a number.

  Key definitions include:
    * `RecordQuery.Rounding`
    * `RecordQuery.Rounding.Contains`
    * `RecordQuery.Rounding.neighbour?`
    * `RecordQuery.Rounding.shortest`

  Key theorems include:
    * `RecordQuery.Rounding.contains_of_neighbour?`
    * `RecordQuery.Rounding.isSome_neighbour?`

  An interval holds the numbers that a reader rounds to the
  same value.  Of the powers of ten, the largest that has a
  multiple inside is found by descending search; at least
  one of the two multiples next to the value is inside
  whenever any multiple is.  Of two multiples inside, the
  one nearer to the value is taken, and the upper one if
  both are equally near.  All comparisons are exact.
-/

------------------------------------------------------------
-- Intervals
------------------------------------------------------------

namespace RecordQuery

/-
  A value and the ends of its interval, in units of
  `2 ^ exponent`; `closed` tells whether the ends belong to
  the interval.
-/
structure Rounding where
  low : Nat
  value : Nat
  high : Nat
  exponent : Int
  closed : Bool

namespace Rounding

/- The numerator of `2 ^ exponent / 10 ^ power`. -/
def numerator
    (r : Rounding)
    (power : Int) :
    Nat :=
  Nat.pow 2 r.exponent.toNat * Nat.pow 10 (-power).toNat

/- The denominator of `2 ^ exponent / 10 ^ power`. -/
def denominator
    (r : Rounding)
    (power : Int) :
    Nat :=
  Nat.pow 2 (-r.exponent).toNat * Nat.pow 10 power.toNat

/- The decimal `n * 10 ^ power` lies inside the interval. -/
def Contains
    (r : Rounding)
    (power : Int)
    (n : Nat) :
    Prop :=
  let point := n * r.denominator power
  let low := r.low * r.numerator power
  let high := r.high * r.numerator power
  if r.closed then
    low ≤ point ∧ point ≤ high
  else
    low < point ∧ point < high

instance instDecidableContains
    (r : Rounding)
    (power : Int)
    (n : Nat) :
    Decidable (r.Contains power n) := by
  unfold Contains
  dsimp only
  split <;> infer_instance

end Rounding

end RecordQuery

------------------------------------------------------------
-- Search
------------------------------------------------------------

namespace RecordQuery

namespace Rounding

/-
  The multiple of `10 ^ power` inside the interval that is
  nearest to the value, if there is one.
-/
def neighbour?
    (r : Rounding)
    (power : Int) :
    Option Nat :=
  let value := r.value * r.numerator power
  let unit := r.denominator power
  let below := value / unit
  let above := below + 1
  if r.Contains power below then
    if r.Contains power above then
      if value - below * unit < above * unit - value then
        some below
      else
        some above
    else
      some below
  else if r.Contains power above then
    some above
  else
    none

/-
  Search downwards from `10 ^ power`.  After the last step
  the value is taken as it is: at that power it has no
  further digits.
-/
def descend
    (r : Rounding)
    (power : Int) :
    Nat → Nat × Int
| 0 =>
    (r.value * r.numerator power / r.denominator power,
      power)
| steps + 1 =>
    match r.neighbour? power with
    | some n => (n, power)
    | none => r.descend (power - 1) steps

/- A power of ten above the interval. -/
def ceiling
    (r : Rounding) :
    Nat :=
  (Nat.toDigits 10
    (r.high * r.numerator 0 / r.denominator 0)).length

/-
  The digits and the power of ten of the shortest decimal
  inside the interval.
-/
def shortest
    (r : Rounding) :
    Nat × Int :=
  r.descend r.ceiling
    (r.ceiling - min r.exponent 0).toNat

end Rounding

end RecordQuery

------------------------------------------------------------
-- Laws Of The Search
------------------------------------------------------------

namespace RecordQuery

namespace Rounding

/- A neighbour that is taken lies inside. -/
theorem contains_of_neighbour?
    {r : Rounding}
    {power : Int}
    {n : Nat}
    (hSome : r.neighbour? power = some n) :
    r.Contains power n := by
  unfold neighbour? at hSome
  dsimp only at hSome
  split at hSome
  · rename_i hBelow
    split at hSome
    · rename_i hAbove
      split at hSome
      · cases hSome
        exact hBelow
      · cases hSome
        exact hAbove
    · cases hSome
      exact hBelow
  · split at hSome
    · rename_i hAbove
      cases hSome
      exact hAbove
    · exact absurd hSome (by simp)

/- Denominators are not zero. -/
theorem denominator_pos
    (r : Rounding)
    (power : Int) :
    0 < r.denominator power := by
  unfold denominator
  exact Nat.mul_pos (Nat.pow_pos (by decide))
    (Nat.pow_pos (by decide))

/-
  If any multiple lies inside an interval around the value,
  a neighbour of the value does.
-/
theorem isSome_neighbour?
    {r : Rounding}
    {power : Int}
    {n : Nat}
    (hLow : r.low < r.value)
    (hHigh : r.value < r.high)
    (hContains : r.Contains power n) :
    (r.neighbour? power).isSome := by
  have hUnit := r.denominator_pos power
  have hNum : 0 < r.numerator power := by
    unfold numerator
    exact Nat.mul_pos (Nat.pow_pos (by decide))
      (Nat.pow_pos (by decide))
  have hLow' := Nat.mul_lt_mul_of_pos_right hLow hNum
  have hHigh' := Nat.mul_lt_mul_of_pos_right hHigh hNum
  have hFloor := Nat.div_mul_le_self
    (r.value * r.numerator power) (r.denominator power)
  have hCeil := (Nat.div_lt_iff_lt_mul hUnit).mp
    (Nat.lt_add_one
      (r.value * r.numerator power / r.denominator power))
  unfold neighbour?
  dsimp only
  by_cases hSide :
      n ≤ r.value * r.numerator power / r.denominator power
  · have hPoint :=
      Nat.mul_le_mul_right (r.denominator power) hSide
    have hBelow : r.Contains power
        (r.value * r.numerator power /
          r.denominator power) := by
      unfold Contains at hContains ⊢
      dsimp only at hContains ⊢
      split at hContains
      · rw [if_pos ‹_›]
        omega
      · rw [if_neg ‹_›]
        omega
    rw [if_pos hBelow]
    split
    · split <;> rfl
    · rfl
  · have hNext :
        r.value * r.numerator power /
          r.denominator power + 1 ≤ n := by
      omega
    have hPoint :=
      Nat.mul_le_mul_right (r.denominator power) hNext
    have hAbove : r.Contains power
        (r.value * r.numerator power /
          r.denominator power + 1) := by
      unfold Contains at hContains ⊢
      dsimp only at hContains ⊢
      split at hContains
      · rw [if_pos ‹_›]
        omega
      · rw [if_neg ‹_›]
        omega
    rw [if_pos hAbove]
    split
    · split <;> rfl
    · rfl

end Rounding

end RecordQuery
