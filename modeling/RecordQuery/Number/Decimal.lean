import RecordQuery.Text.Numeral

/-
  Fixed-point decimals: a mantissa and a number of places.

  Key definitions include:
    * `RecordQuery.Decimal`
    * `RecordQuery.Decimal.text`
    * `RecordQuery.Decimal.agrees`

  The scale is part of a decimal and shows in its text, but
  two decimals of different scale may be the same number.
-/

------------------------------------------------------------
-- Decimals
------------------------------------------------------------

namespace RecordQuery

/-
  The number `mantissa / 10 ^ scale`.  A zero has no sign:
  there is no negative one.
-/
structure Decimal where
  mantissa : Int
  scale : Nat
  deriving DecidableEq, Repr

namespace Decimal

/-
  A decimal is written with exactly `scale` digits after the
  point, trailing zeros included.
-/
def text
    (d : Decimal) :
    String :=
  if d.mantissa < 0 then
    "-" ++ Text.positional d.mantissa.natAbs d.scale
  else
    Text.positional d.mantissa.natAbs d.scale

/- Whether two decimals are the same number. -/
def agrees
    (d e : Decimal) :
    Bool :=
  d.mantissa * Int.pow 10 e.scale ==
    e.mantissa * Int.pow 10 d.scale

end Decimal

end RecordQuery
