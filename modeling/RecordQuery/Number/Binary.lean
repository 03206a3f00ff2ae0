import RecordQuery.Number.Shortest
import RecordQuery.Text.Numeral

/-
  Binary floating-point numbers as their interchange bits.

  Key definitions include:
    * `RecordQuery.BinaryFormat`
    * `RecordQuery.Binary`
    * `RecordQuery.Binary.rounding`
    * `RecordQuery.Binary.agrees`
    * `RecordQuery.Binary.text`

  A number keeps all its bits, so that the sign of zero and
  the payload of a NaN are part of it.  Its text has the
  fewest digits that read back as the same number and never
  an exponent.
-/

------------------------------------------------------------
-- Formats
------------------------------------------------------------

namespace RecordQuery

/- The widths of the two fields behind the sign bit. -/
structure BinaryFormat where
  exponentWidth : Nat
  fractionWidth : Nat
  deriving DecidableEq, Repr

namespace BinaryFormat

/- The format of 32 bits. -/
def single : BinaryFormat :=
  ⟨8, 23⟩

/- The format of 64 bits. -/
def double : BinaryFormat :=
  ⟨11, 52⟩

/- The number of bits of a format. -/
def width
    (f : BinaryFormat) :
    Nat :=
  1 + f.exponentWidth + f.fractionWidth

/- The biased exponent of infinities and NaNs. -/
def topExponent
    (f : BinaryFormat) :
    Nat :=
  Nat.pow 2 f.exponentWidth - 1

/- The amount by which exponents are stored too large. -/
def bias
    (f : BinaryFormat) :
    Nat :=
  Nat.pow 2 (f.exponentWidth - 1) - 1

end BinaryFormat

/- A floating-point number of a format. -/
structure Binary (f : BinaryFormat) where
  bits : BitVec f.width
  deriving DecidableEq, Repr

end RecordQuery

------------------------------------------------------------
-- Fields And Classes
------------------------------------------------------------

namespace RecordQuery

namespace Binary

variable {f : BinaryFormat}

/- Whether the sign bit is set. -/
def negative
    (x : Binary f) :
    Bool :=
  x.bits.msb

/- The stored fraction. -/
def fraction
    (x : Binary f) :
    Nat :=
  x.bits.toNat % Nat.pow 2 f.fractionWidth

/- The stored exponent. -/
def biasedExponent
    (x : Binary f) :
    Nat :=
  x.bits.toNat / Nat.pow 2 f.fractionWidth %
    Nat.pow 2 f.exponentWidth

/- Whether the bits stand for no number. -/
def isNaN
    (x : Binary f) :
    Bool :=
  x.biasedExponent == f.topExponent && x.fraction != 0

/- Whether the number is one of the two infinities. -/
def isInfinite
    (x : Binary f) :
    Bool :=
  x.biasedExponent == f.topExponent && x.fraction == 0

/- Whether the number is one of the two zeros. -/
def isZero
    (x : Binary f) :
    Bool :=
  x.biasedExponent == 0 && x.fraction == 0

/-
  The significand with its leading bit, which only the
  numbers of least exponent lack.
-/
def significand
    (x : Binary f) :
    Nat :=
  if x.biasedExponent = 0 then
    x.fraction
  else
    x.fraction + Nat.pow 2 f.fractionWidth

/- The power of two of the significand's last bit. -/
def exponent
    (x : Binary f) :
    Int :=
  (max x.biasedExponent 1 : Nat) -
    (f.bias + f.fractionWidth : Nat)

/-
  Numeric equality: the zeros are equal, and a NaN is not
  equal to anything.
-/
def agrees
    (x y : Binary f) :
    Bool :=
  !x.isNaN && !y.isNaN &&
    (x.bits == y.bits || (x.isZero && y.isZero))

end Binary

end RecordQuery

------------------------------------------------------------
-- Text
------------------------------------------------------------

namespace RecordQuery

namespace Binary

variable {f : BinaryFormat}

/-
  The interval that rounds to a finite number, in quarters
  of its last bit.  Ends go to even significands.  Below a
  power of two the neighbour is only half as far.
-/
def rounding
    (x : Binary f) :
    Rounding where
  low :=
    if x.fraction = 0 ∧ 1 < x.biasedExponent then
      4 * x.significand - 1
    else
      4 * x.significand - 2
  value := 4 * x.significand
  high := 4 * x.significand + 2
  exponent := x.exponent - 2
  closed := x.significand % 2 == 0

/- The magnitude of a finite number. -/
def magnitude
    (x : Binary f) :
    String :=
  if x.isZero then
    "0"
  else
    let (digits, power) := x.rounding.shortest
    Text.positional (digits * Nat.pow 10 power.toNat)
      (-power).toNat

/-
  A number is written with the fewest digits that read back
  and without an exponent; whole numbers have no point.
-/
def text
    (x : Binary f) :
    String :=
  if x.isNaN then
    "NaN"
  else
    let size :=
      if x.isInfinite then "inf" else x.magnitude
    if x.negative then "-" ++ size else size

end Binary

end RecordQuery
