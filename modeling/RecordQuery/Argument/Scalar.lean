import RecordQuery.Calendar
import RecordQuery.Number.Binary
import RecordQuery.Number.Decimal

/-
  The scalars that a statement can be executed with, and
  their types.

  Key definitions include:
    * `RecordQuery.Width`
    * `RecordQuery.ScalarType`
    * `RecordQuery.Scalar`
    * `RecordQuery.Scalar.type`
    * `RecordQuery.Scalar.agrees`

  Structural equality of scalars tells every two of them
  apart.  The comparison `agrees` is the one of the values
  they stand for.
-/

------------------------------------------------------------
-- Integers And Identifiers
------------------------------------------------------------

namespace RecordQuery

/- The widths of integers. -/
inductive Width where
  | w8
  | w16
  | w32
  | w64
  | w128
  deriving DecidableEq, Repr

/- The number of bits of a width. -/
def Width.bits : Width → Nat
| .w8 => 8
| .w16 => 16
| .w32 => 32
| .w64 => 64
| .w128 => 128

/- A signed integer of 128 bits. -/
structure Int128 where
  bits : BitVec 128
  deriving DecidableEq, Repr

/- An unsigned integer of 128 bits. -/
structure UInt128 where
  bits : BitVec 128
  deriving DecidableEq, Repr

/- A universally unique identifier. -/
structure Uuid where
  bits : BitVec 128
  deriving DecidableEq, Repr

/-
  An identifier is written as 32 hexadecimal digits, with
  hyphens after 8, 12, 16 and 20 of them.
-/
def Uuid.text
    (u : Uuid) :
    String :=
  let digits := Text.hexDigits u.bits.toNat 32
  String.ofList
    (digits.take 8 ++ '-' ::
      ((digits.drop 8).take 4 ++ '-' ::
        ((digits.drop 12).take 4 ++ '-' ::
          ((digits.drop 16).take 4 ++ '-' ::
            digits.drop 20))))

end RecordQuery

------------------------------------------------------------
-- Scalars
------------------------------------------------------------

namespace RecordQuery

/- The types of scalars. -/
inductive ScalarType where
  | boolean
  | int (width : Width)
  | uint (width : Width)
  | float32
  | float64
  | decimal
  | char
  | varchar
  | blob
  | date
  | time
  | timestamp
  | zonedTimestamp
  | uuid
  deriving DecidableEq, Repr

/- A value of some scalar type. -/
inductive Scalar where
  | boolean (value : Bool)
  | int (width : Width) (value : BitVec width.bits)
  | uint (width : Width) (value : BitVec width.bits)
  | float32 (value : Binary .single)
  | float64 (value : Binary .double)
  | decimal (value : Decimal)
  | char (value : Char)
  | varchar (value : String)
  | blob (value : List UInt8)
  | date (value : Date)
  | time (value : TimeOfDay)
  | timestamp (value : Timestamp)
  | zonedTimestamp (value : ZonedTimestamp)
  | uuid (value : Uuid)
  deriving DecidableEq, Repr

namespace Scalar

/- The type of a scalar. -/
def type : Scalar → ScalarType
| .boolean _ => .boolean
| .int width _ => .int width
| .uint width _ => .uint width
| .float32 _ => .float32
| .float64 _ => .float64
| .decimal _ => .decimal
| .char _ => .char
| .varchar _ => .varchar
| .blob _ => .blob
| .date _ => .date
| .time _ => .time
| .timestamp _ => .timestamp
| .zonedTimestamp _ => .zonedTimestamp
| .uuid _ => .uuid

/-
  Whether two scalars are of one type and equal as values:
  floating-point numbers, decimals and zoned timestamps by
  what they stand for, all others by what they are.
-/
def agrees
    (s t : Scalar) :
    Bool :=
  match s, t with
  | .float32 x, .float32 y => x.agrees y
  | .float64 x, .float64 y => x.agrees y
  | .decimal x, .decimal y => x.agrees y
  | .zonedTimestamp x, .zonedTimestamp y => x.agrees y
  | s, t => s == t

end Scalar

end RecordQuery
