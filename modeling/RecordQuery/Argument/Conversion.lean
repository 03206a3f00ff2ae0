import RecordQuery.Argument.Basic

/-
  Conversion of Lean values into arguments.

  Key definitions include:
    * `RecordQuery.ToScalar`
    * `RecordQuery.ToArgument`
    * `RecordQuery.toArgument`
    * `RecordQuery.SharedText`
    * `RecordQuery.ByteSlice`

  Key theorems include:
    * `RecordQuery.toArgument_none`
    * `RecordQuery.toArgument_some`

  A type is tied to one scalar type, which its absent value
  keeps: `none` of an optional type becomes the `NULL` of
  the type below, whatever number of options stands above.
-/

------------------------------------------------------------
-- Classes
------------------------------------------------------------

namespace RecordQuery

/- The types whose values are scalars of a fixed type. -/
class ToScalar (α : Type) where
  type : ScalarType
  toScalar : α → Scalar
  type_toScalar : ∀ a, (toScalar a).type = type

/-
  The types whose values can be bound, with the argument
  that stands for the absence of a value.
-/
class ToArgument (α : Type) where
  absent : Argument
  convert : α → Argument

/- The argument that a value is bound as. -/
def toArgument
    {α : Type}
    [ToArgument α]
    (a : α) :
    Argument :=
  ToArgument.convert a

/- The argument of a missing value of a type. -/
def absentArgument
    (α : Type)
    [ToArgument α] :
    Argument :=
  ToArgument.absent α

end RecordQuery

------------------------------------------------------------
-- Composite Instances
------------------------------------------------------------

namespace RecordQuery

instance instToArgumentOfToScalar
    {α : Type}
    [ToScalar α] :
    ToArgument α where
  absent := .null (ToScalar.type α)
  convert a := .scalar (ToScalar.toScalar a)

instance instToArgumentArgument :
    ToArgument Argument where
  absent := .untyped
  convert a := a

instance instToArgumentOption
    {α : Type}
    [ToArgument α] :
    ToArgument (Option α) where
  absent := absentArgument α
  convert
  | none => absentArgument α
  | some a => toArgument a

/- A missing value is bound as the absence of its type. -/
theorem toArgument_none
    {α : Type}
    [ToArgument α] :
    toArgument (none : Option α) = absentArgument α :=
  rfl

/- A present value is bound as it is. -/
theorem toArgument_some
    {α : Type}
    [ToArgument α]
    (a : α) :
    toArgument (some a) = toArgument a :=
  rfl

end RecordQuery

------------------------------------------------------------
-- Scalar Instances
------------------------------------------------------------

namespace RecordQuery

instance : ToScalar Bool where
  type := .boolean
  toScalar := .boolean
  type_toScalar _ := rfl

instance : ToScalar Int8 where
  type := .int .w8
  toScalar a := .int .w8 a.toBitVec
  type_toScalar _ := rfl

instance : ToScalar Int16 where
  type := .int .w16
  toScalar a := .int .w16 a.toBitVec
  type_toScalar _ := rfl

instance : ToScalar Int32 where
  type := .int .w32
  toScalar a := .int .w32 a.toBitVec
  type_toScalar _ := rfl

instance : ToScalar Int64 where
  type := .int .w64
  toScalar a := .int .w64 a.toBitVec
  type_toScalar _ := rfl

instance : ToScalar Int128 where
  type := .int .w128
  toScalar a := .int .w128 a.bits
  type_toScalar _ := rfl

instance : ToScalar UInt8 where
  type := .uint .w8
  toScalar a := .uint .w8 a.toBitVec
  type_toScalar _ := rfl

instance : ToScalar UInt16 where
  type := .uint .w16
  toScalar a := .uint .w16 a.toBitVec
  type_toScalar _ := rfl

instance : ToScalar UInt32 where
  type := .uint .w32
  toScalar a := .uint .w32 a.toBitVec
  type_toScalar _ := rfl

instance : ToScalar UInt64 where
  type := .uint .w64
  toScalar a := .uint .w64 a.toBitVec
  type_toScalar _ := rfl

instance : ToScalar UInt128 where
  type := .uint .w128
  toScalar a := .uint .w128 a.bits
  type_toScalar _ := rfl

instance : ToScalar (Binary .single) where
  type := .float32
  toScalar := .float32
  type_toScalar _ := rfl

instance : ToScalar (Binary .double) where
  type := .float64
  toScalar := .float64
  type_toScalar _ := rfl

instance : ToScalar Decimal where
  type := .decimal
  toScalar := .decimal
  type_toScalar _ := rfl

instance : ToScalar Char where
  type := .char
  toScalar := .char
  type_toScalar _ := rfl

instance : ToScalar String where
  type := .varchar
  toScalar := .varchar
  type_toScalar _ := rfl

instance : ToScalar (List UInt8) where
  type := .blob
  toScalar := .blob
  type_toScalar _ := rfl

instance : ToScalar Date where
  type := .date
  toScalar := .date
  type_toScalar _ := rfl

instance : ToScalar TimeOfDay where
  type := .time
  toScalar := .time
  type_toScalar _ := rfl

instance : ToScalar Timestamp where
  type := .timestamp
  toScalar := .timestamp
  type_toScalar _ := rfl

instance : ToScalar ZonedTimestamp where
  type := .zonedTimestamp
  toScalar := .zonedTimestamp
  type_toScalar _ := rfl

instance : ToScalar Uuid where
  type := .uuid
  toScalar := .uuid
  type_toScalar _ := rfl

end RecordQuery

------------------------------------------------------------
-- Borrowed Values
------------------------------------------------------------

namespace RecordQuery

/- A text that is a part of another one, or one of its own. -/
inductive SharedText where
  | borrowed (value : String.Slice)
  | owned (value : String)

/- The text itself. -/
def SharedText.text : SharedText → String
| .borrowed value => value.copy
| .owned value => value

/- Some of the bytes of a list, without a copy of them. -/
structure ByteSlice where
  bytes : List UInt8
  start : Nat
  length : Nat
  within : start + length ≤ bytes.length

/- The bytes themselves. -/
def ByteSlice.toList
    (s : ByteSlice) :
    List UInt8 :=
  (s.bytes.drop s.start).take s.length

instance : ToScalar String.Slice where
  type := .varchar
  toScalar a := .varchar a.copy
  type_toScalar _ := rfl

instance : ToScalar SharedText where
  type := .varchar
  toScalar a := .varchar a.text
  type_toScalar _ := rfl

instance : ToScalar ByteSlice where
  type := .blob
  toScalar a := .blob a.toList
  type_toScalar _ := rfl

end RecordQuery
