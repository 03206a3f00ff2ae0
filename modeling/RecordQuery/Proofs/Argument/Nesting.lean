import RecordQuery.Argument.Conversion
import RecordQuery.Proofs.Text.Figures

/-
  Values under any number of options, and how they are bound
  and shown.

  Key definitions include:
    * `RecordQuery.ScalarType.Native`
    * `RecordQuery.ScalarType.Carries`
    * `RecordQuery.BaseType`
    * `RecordQuery.BaseType.Carries`
    * `RecordQuery.Nested`
    * `RecordQuery.Nested.IsAbsent`
    * `RecordQuery.Nested.Holds`
    * `RecordQuery.Argument.type?`

  Key theorems include:
    * `RecordQuery.ScalarType.carries_toScalar`
    * `RecordQuery.BaseType.carries_toScalar`
    * `RecordQuery.ToScalar.exists_native`
    * `RecordQuery.Nested.toArgument_of_isAbsent`
    * `RecordQuery.Nested.toArgument_of_holds`
    * `RecordQuery.Argument.text_eq_null_iff`
    * `RecordQuery.Nested.toArgument_keeps_type_and_payload`

  An option adds nothing but the possibility of absence, so
  that the scalar type below all options decides which
  `NULL` is bound, wherever among them the value is missing.
-/

------------------------------------------------------------
-- Native Types
------------------------------------------------------------

namespace RecordQuery

/- The signed integers of a width. -/
def Width.Signed : Width → Type
| .w8 => Int8
| .w16 => Int16
| .w32 => Int32
| .w64 => Int64
| .w128 => Int128

/- The unsigned integers of a width. -/
def Width.Unsigned : Width → Type
| .w8 => UInt8
| .w16 => UInt16
| .w32 => UInt32
| .w64 => UInt64
| .w128 => UInt128

/- The type whose values are bound as scalars of a type. -/
def ScalarType.Native : ScalarType → Type
| .boolean => Bool
| .int width => width.Signed
| .uint width => width.Unsigned
| .float32 => Binary .single
| .float64 => Binary .double
| .decimal => Decimal
| .char => Char
| .varchar => String
| .blob => List UInt8
| .date => Date
| .time => TimeOfDay
| .timestamp => Timestamp
| .zonedTimestamp => ZonedTimestamp
| .uuid => Uuid

instance instToScalarSigned :
    (width : Width) → ToScalar width.Signed
| .w8 => inferInstanceAs (ToScalar Int8)
| .w16 => inferInstanceAs (ToScalar Int16)
| .w32 => inferInstanceAs (ToScalar Int32)
| .w64 => inferInstanceAs (ToScalar Int64)
| .w128 => inferInstanceAs (ToScalar Int128)

instance instToScalarUnsigned :
    (width : Width) → ToScalar width.Unsigned
| .w8 => inferInstanceAs (ToScalar UInt8)
| .w16 => inferInstanceAs (ToScalar UInt16)
| .w32 => inferInstanceAs (ToScalar UInt32)
| .w64 => inferInstanceAs (ToScalar UInt64)
| .w128 => inferInstanceAs (ToScalar UInt128)

instance instToScalarNative :
    (type : ScalarType) → ToScalar type.Native
| .boolean => inferInstanceAs (ToScalar Bool)
| .int width => instToScalarSigned width
| .uint width => instToScalarUnsigned width
| .float32 => inferInstanceAs (ToScalar (Binary .single))
| .float64 => inferInstanceAs (ToScalar (Binary .double))
| .decimal => inferInstanceAs (ToScalar Decimal)
| .char => inferInstanceAs (ToScalar Char)
| .varchar => inferInstanceAs (ToScalar String)
| .blob => inferInstanceAs (ToScalar (List UInt8))
| .date => inferInstanceAs (ToScalar Date)
| .time => inferInstanceAs (ToScalar TimeOfDay)
| .timestamp => inferInstanceAs (ToScalar Timestamp)
| .zonedTimestamp =>
    inferInstanceAs (ToScalar ZonedTimestamp)
| .uuid => inferInstanceAs (ToScalar Uuid)

namespace Scalar

/- Signed integers of one width differ in their bits. -/
theorem eq_of_int
    {width : Width}
    {value other : BitVec width.bits}
    (hEq : Scalar.int width value = .int width other) :
    value = other := by
  injection hEq

/- Unsigned integers of one width differ in their bits. -/
theorem eq_of_uint
    {width : Width}
    {value other : BitVec width.bits}
    (hEq : Scalar.uint width value = .uint width other) :
    value = other := by
  injection hEq

end Scalar

namespace ToScalar

/- Signed integers of a width are bound in that width. -/
theorem type_signed
    (width : Width) :
    type width.Signed = .int width := by
  cases width <;> rfl

/- Unsigned integers of a width are bound in that width. -/
theorem type_unsigned
    (width : Width) :
    type width.Unsigned = .uint width := by
  cases width <;> rfl

/- The scalars of a native type are those it belongs to. -/
theorem type_native
    (scalarType : ScalarType) :
    type scalarType.Native = scalarType := by
  cases scalarType with
  | int width => exact type_signed width
  | uint width => exact type_unsigned width
  | _ => rfl

/- Every scalar is what some native value is bound as. -/
theorem exists_native
    (value : Scalar) :
    ∃ a : value.type.Native, toScalar a = value := by
  cases value with
  | int width value =>
      cases width with
      | w8 => exact ⟨Int8.ofBitVec value, rfl⟩
      | w16 => exact ⟨Int16.ofBitVec value, rfl⟩
      | w32 => exact ⟨Int32.ofBitVec value, rfl⟩
      | w64 => exact ⟨Int64.ofBitVec value, rfl⟩
      | w128 => exact ⟨Int128.mk value, rfl⟩
  | uint width value =>
      cases width with
      | w8 => exact ⟨UInt8.ofBitVec value, rfl⟩
      | w16 => exact ⟨UInt16.ofBitVec value, rfl⟩
      | w32 => exact ⟨UInt32.ofBitVec value, rfl⟩
      | w64 => exact ⟨UInt64.ofBitVec value, rfl⟩
      | w128 => exact ⟨UInt128.mk value, rfl⟩
  | _ => exact ⟨_, rfl⟩

/- Signed integers are kept when they are bound. -/
theorem eq_of_toScalar_signed
    {width : Width}
    {a b : width.Signed}
    (hEq : toScalar a = toScalar b) :
    a = b := by
  cases width with
  | w8 =>
      exact Int8.toBitVec_inj.mp (Scalar.eq_of_int hEq)
  | w16 =>
      exact Int16.toBitVec_inj.mp (Scalar.eq_of_int hEq)
  | w32 =>
      exact Int32.toBitVec_inj.mp (Scalar.eq_of_int hEq)
  | w64 =>
      exact Int64.toBitVec_inj.mp (Scalar.eq_of_int hEq)
  | w128 =>
      exact congrArg Int128.mk (Scalar.eq_of_int hEq)

/- Unsigned integers are kept when they are bound. -/
theorem eq_of_toScalar_unsigned
    {width : Width}
    {a b : width.Unsigned}
    (hEq : toScalar a = toScalar b) :
    a = b := by
  cases width with
  | w8 =>
      exact UInt8.toBitVec_inj.mp (Scalar.eq_of_uint hEq)
  | w16 =>
      exact UInt16.toBitVec_inj.mp (Scalar.eq_of_uint hEq)
  | w32 =>
      exact UInt32.toBitVec_inj.mp (Scalar.eq_of_uint hEq)
  | w64 =>
      exact UInt64.toBitVec_inj.mp (Scalar.eq_of_uint hEq)
  | w128 =>
      exact congrArg UInt128.mk (Scalar.eq_of_uint hEq)

/- Native values are kept when they are bound. -/
theorem eq_of_toScalar_native
    {scalarType : ScalarType}
    {a b : scalarType.Native}
    (hEq : toScalar a = toScalar b) :
    a = b := by
  cases scalarType with
  | int width => exact eq_of_toScalar_signed hEq
  | uint width => exact eq_of_toScalar_unsigned hEq
  | _ => injection hEq

end ToScalar

end RecordQuery

------------------------------------------------------------
-- Payloads
------------------------------------------------------------

namespace RecordQuery

/- The number that a signed integer is. -/
def Width.signedValue :
    (width : Width) → width.Signed → Int
| .w8 => Int8.toInt
| .w16 => Int16.toInt
| .w32 => Int32.toInt
| .w64 => Int64.toInt
| .w128 => fun a => a.bits.toInt

/- The number that an unsigned integer is. -/
def Width.unsignedValue :
    (width : Width) → width.Unsigned → Nat
| .w8 => UInt8.toNat
| .w16 => UInt16.toNat
| .w32 => UInt32.toNat
| .w64 => UInt64.toNat
| .w128 => fun a => a.bits.toNat

/-
  A scalar has a native value for its payload: the same
  number in the same width, and else the value itself.
-/
inductive ScalarType.Carries :
    (type : ScalarType) → type.Native → Scalar → Prop where
  | boolean
      (value : Bool) :
      Carries .boolean value (.boolean value)
  | int
      {width : Width}
      {value : width.Signed}
      {bits : BitVec width.bits}
      (hValue : bits.toInt = width.signedValue value) :
      Carries (.int width) value (.int width bits)
  | uint
      {width : Width}
      {value : width.Unsigned}
      {bits : BitVec width.bits}
      (hValue : bits.toNat = width.unsignedValue value) :
      Carries (.uint width) value (.uint width bits)
  | float32
      (value : Binary .single) :
      Carries .float32 value (.float32 value)
  | float64
      (value : Binary .double) :
      Carries .float64 value (.float64 value)
  | decimal
      (value : Decimal) :
      Carries .decimal value (.decimal value)
  | char
      (value : Char) :
      Carries .char value (.char value)
  | varchar
      (value : String) :
      Carries .varchar value (.varchar value)
  | blob
      (value : List UInt8) :
      Carries .blob value (.blob value)
  | date
      (value : Date) :
      Carries .date value (.date value)
  | time
      (value : TimeOfDay) :
      Carries .time value (.time value)
  | timestamp
      (value : Timestamp) :
      Carries .timestamp value (.timestamp value)
  | zonedTimestamp
      (value : ZonedTimestamp) :
      Carries .zonedTimestamp value (.zonedTimestamp value)
  | uuid
      (value : Uuid) :
      Carries .uuid value (.uuid value)

namespace ScalarType

/- Signed integers are bound with their number. -/
theorem carries_toScalar_signed
    {width : Width}
    (a : width.Signed) :
    Carries (.int width) a (ToScalar.toScalar a) := by
  cases width with
  | w8 => exact .int (Int8.toInt_toBitVec a)
  | w16 => exact .int (Int16.toInt_toBitVec a)
  | w32 => exact .int (Int32.toInt_toBitVec a)
  | w64 => exact .int (Int64.toInt_toBitVec a)
  | w128 => exact .int rfl

/- Unsigned integers are bound with their number. -/
theorem carries_toScalar_unsigned
    {width : Width}
    (a : width.Unsigned) :
    Carries (.uint width) a (ToScalar.toScalar a) := by
  cases width with
  | w8 => exact .uint (UInt8.toNat_toBitVec a)
  | w16 => exact .uint (UInt16.toNat_toBitVec a)
  | w32 => exact .uint (UInt32.toNat_toBitVec a)
  | w64 => exact .uint (UInt64.toNat_toBitVec a)
  | w128 => exact .uint rfl

/- Native values are bound unchanged. -/
theorem carries_toScalar
    (type : ScalarType)
    (a : type.Native) :
    type.Carries a (ToScalar.toScalar a) := by
  cases type with
  | boolean => exact .boolean a
  | int width => exact carries_toScalar_signed a
  | uint width => exact carries_toScalar_unsigned a
  | float32 => exact .float32 a
  | float64 => exact .float64 a
  | decimal => exact .decimal a
  | char => exact .char a
  | varchar => exact .varchar a
  | blob => exact .blob a
  | date => exact .date a
  | time => exact .time a
  | timestamp => exact .timestamp a
  | zonedTimestamp => exact .zonedTimestamp a
  | uuid => exact .uuid a

end ScalarType

end RecordQuery

------------------------------------------------------------
-- Base Types
------------------------------------------------------------

namespace RecordQuery

/-
  The types that are bound as scalars: the native ones, and
  those of texts and bytes that belong to something else.
-/
inductive BaseType where
  | native (type : ScalarType)
  | textSlice
  | sharedText
  | byteSlice
  deriving DecidableEq, Repr

namespace BaseType

/- The scalar type that a base type is bound in. -/
def type : BaseType → ScalarType
| .native type => type
| .textSlice => .varchar
| .sharedText => .varchar
| .byteSlice => .blob

/- The values of a base type. -/
def Carrier : BaseType → Type
| .native type => type.Native
| .textSlice => String.Slice
| .sharedText => SharedText
| .byteSlice => ByteSlice

instance instToScalarCarrier :
    (base : BaseType) → ToScalar base.Carrier
| .native type => instToScalarNative type
| .textSlice => inferInstanceAs (ToScalar String.Slice)
| .sharedText => inferInstanceAs (ToScalar SharedText)
| .byteSlice => inferInstanceAs (ToScalar ByteSlice)

/-
  A scalar has a value of a base type for its payload, of a
  part the very text or bytes that are that part.
-/
inductive Carries :
    (base : BaseType) → base.Carrier → Scalar → Prop where
  | native
      {type : ScalarType}
      {value : type.Native}
      {s : Scalar}
      (hNative : type.Carries value s) :
      Carries (.native type) value s
  | textSlice
      (value : String.Slice) :
      Carries .textSlice value (.varchar value.copy)
  | borrowedText
      (value : String.Slice) :
      Carries .sharedText (SharedText.borrowed value)
        (.varchar value.copy)
  | ownedText
      (value : String) :
      Carries .sharedText (SharedText.owned value)
        (.varchar value)
  | byteSlice
      (value : ByteSlice) :
      Carries .byteSlice value (.blob value.toList)

/- Values of base types are bound in their scalar type. -/
theorem type_carrier
    (base : BaseType) :
    ToScalar.type base.Carrier = base.type := by
  cases base with
  | native type => exact ToScalar.type_native type
  | textSlice | sharedText | byteSlice => rfl

/- Values of base types are bound unchanged. -/
theorem carries_toScalar
    (base : BaseType)
    (a : base.Carrier) :
    base.Carries a (ToScalar.toScalar a) := by
  cases base with
  | native type => exact .native (type.carries_toScalar a)
  | textSlice => exact .textSlice a
  | sharedText =>
      cases a with
      | borrowed value => exact .borrowedText value
      | owned value => exact .ownedText value
  | byteSlice => exact .byteSlice a

end BaseType

end RecordQuery

------------------------------------------------------------
-- Nested Options
------------------------------------------------------------

namespace RecordQuery

/- The values of a type under a number of options. -/
def Nested
    (α : Type) :
    Nat → Type
| 0 => α
| depth + 1 => Option (Nested α depth)

instance instToArgumentNested
    {α : Type}
    [ToArgument α] :
    (depth : Nat) → ToArgument (Nested α depth)
| 0 => inferInstanceAs (ToArgument α)
| depth + 1 =>
    have : ToArgument (Nested α depth) :=
      instToArgumentNested depth
    inferInstanceAs (ToArgument (Option (Nested α depth)))

namespace Nested

variable {α : Type}
variable {depth : Nat}

/- A value without an option. -/
def bare
    (a : α) :
    Nested α 0 :=
  a

/- The absence of a value. -/
def missing : Nested α (depth + 1) :=
  Option.none

/- A value under one more option. -/
def present
    (x : Nested α depth) :
    Nested α (depth + 1) :=
  Option.some x

/- A value that is missing at one of its options. -/
inductive IsAbsent :
    {depth : Nat} → Nested α depth → Prop where
  | here
      {depth : Nat} :
      IsAbsent (missing : Nested α (depth + 1))
  | inside
      {depth : Nat}
      {x : Nested α depth}
      (hInside : IsAbsent x) :
      IsAbsent x.present

/- A value that is present at all of its options. -/
inductive Holds :
    {depth : Nat} → Nested α depth → α → Prop where
  | bare
      (a : α) :
      Holds (bare a) a
  | present
      {depth : Nat}
      {x : Nested α depth}
      {a : α}
      (hInside : Holds x a) :
      Holds x.present a

/- A value is missing somewhere or present everywhere. -/
theorem isAbsent_or_holds
    (x : Nested α depth) :
    x.IsAbsent ∨ ∃ a, x.Holds a := by
  induction depth with
  | zero => exact Or.inr ⟨x, .bare x⟩
  | succ depth ih =>
      cases x with
      | none => exact Or.inl .here
      | some x =>
          rcases ih x with hAbsent | ⟨a, hHolds⟩
          · exact Or.inl hAbsent.inside
          · exact Or.inr ⟨a, hHolds.present⟩

variable [ToArgument α]

/- Options keep what stands for absence below them. -/
theorem absentArgument_nested
    (depth : Nat) :
    absentArgument (Nested α depth) = absentArgument α := by
  induction depth with
  | zero => rfl
  | succ depth ih => exact ih

/- A missing value is bound as the absence of its type. -/
theorem toArgument_of_isAbsent
    {x : Nested α depth}
    (hAbsent : x.IsAbsent) :
    toArgument x = absentArgument α := by
  induction hAbsent with
  | here => exact absentArgument_nested _
  | inside hInside ih => exact ih

/- A present value is bound like the one below all options. -/
theorem toArgument_of_holds
    {x : Nested α depth}
    {a : α}
    (hHolds : x.Holds a) :
    toArgument x = toArgument a := by
  induction hHolds with
  | bare a => rfl
  | present hInside ih => exact ih

end Nested

end RecordQuery

------------------------------------------------------------
-- Absence Of Scalars
------------------------------------------------------------

namespace RecordQuery

/- The scalar type of an argument, if it has one. -/
def Argument.type? : Argument → Option ScalarType
| .untyped => none
| .null type => some type
| .scalar value => some value.type

/- A `NULL` is equal to itself only. -/
theorem Argument.agrees_null_iff
    {arg : Argument}
    {type : ScalarType} :
    arg.agrees (.null type) = true ↔ arg = .null type := by
  cases arg <;> simp [agrees]

namespace Nested

variable {α : Type}
variable [ToScalar α]
variable {depth : Nat}

/- An option of scalars is bound in their type. -/
theorem type?_toArgument
    (x : Nested α depth) :
    (toArgument x).type? = some (ToScalar.type α) := by
  rcases x.isAbsent_or_holds with hAbsent | ⟨a, hHolds⟩
  · rw [toArgument_of_isAbsent hAbsent]
    rfl
  · rw [toArgument_of_holds hHolds]
    exact congrArg some (ToScalar.type_toScalar a)

/- Exactly the missing scalars count as `NULL`. -/
theorem isNull_toArgument_iff
    (x : Nested α depth) :
    (toArgument x).isNull = true ↔ x.IsAbsent := by
  constructor
  · intro hNull
    rcases x.isAbsent_or_holds with hAbsent | ⟨a, hHolds⟩
    · exact hAbsent
    · rw [toArgument_of_holds hHolds] at hNull
      cases hNull
  · intro hAbsent
    rw [toArgument_of_isAbsent hAbsent]
    exact Argument.isNull_null _

/- Exactly the missing scalars are bound as absent ones. -/
theorem toArgument_eq_absentArgument_iff
    (x : Nested α depth) :
    toArgument x = absentArgument (Nested α depth) ↔
      x.IsAbsent := by
  rw [absentArgument_nested]
  constructor
  · intro hEq
    rw [← isNull_toArgument_iff, hEq]
    exact Argument.isNull_null _
  · exact toArgument_of_isAbsent

end Nested

end RecordQuery

------------------------------------------------------------
-- Shown NULLs
------------------------------------------------------------

namespace RecordQuery

open Text

/- Figures do not spell a `NULL`. -/
theorem Text.Figures.ne_null
    {text : String}
    (hText : Figures text) :
    text ≠ "NULL" := by
  rintro rfl
  revert hText
  unfold Figures
  decide

/- Neither does a floating-point number. -/
theorem Binary.text_ne_null
    {f : BinaryFormat}
    (x : Binary f) :
    x.text ≠ "NULL" := by
  rcases x.text_cases with ⟨size, hSize, hText⟩
  have hOther : size ≠ "NULL" ∧ "-" ++ size ≠ "NULL" := by
    rcases hSize with rfl | rfl | rfl
    · decide
    · decide
    · have hFigures := x.figures_magnitude
      exact
        ⟨hFigures.ne_null,
          (figures_hyphen.append _ hFigures).ne_null⟩
  rcases hText with hText | hText
  · rw [hText]
    exact hOther.1
  · rw [hText]
    exact hOther.2

/- Between quotes nothing is read as a `NULL`. -/
theorem quoted_ne_null
    (body : String) :
    quoted body ≠ "NULL" := by
  intro hEq
  have hFirst := congrArg (fun s => s.toList.head?) hEq
  simp [quoted] at hFirst

/- No scalar is shown as a `NULL`. -/
theorem Scalar.text_ne_null
    (value : Scalar) :
    value.text ≠ "NULL" := by
  cases value with
  | boolean value => cases value <;> decide
  | int width value => exact (figures_integer _).ne_null
  | uint width value => exact (figures_natural _).ne_null
  | float32 value => exact value.text_ne_null
  | float64 value => exact value.text_ne_null
  | decimal value => exact value.figures_text.ne_null
  | _ => exact quoted_ne_null _

/- An argument is shown as `NULL` if and only if it is one. -/
theorem Argument.text_eq_null_iff
    (arg : Argument) :
    arg.text = "NULL" ↔ arg.isNull = true := by
  cases arg with
  | untyped => simp [text_untyped, isNull]
  | null type => simp [text_null, isNull_null]
  | scalar value =>
      simp [text_scalar, isNull_scalar, value.text_ne_null]

end RecordQuery

------------------------------------------------------------
-- Binding Under Options
------------------------------------------------------------

namespace RecordQuery

namespace Nested

/-
  Whatever number of options stands above a scalar type, its
  values are bound in that type: as its `NULL` if they are
  missing somewhere, and else as the scalar of the payload.
  That scalar has the payload unchanged, for values of every
  base type.  Every scalar type has its native values, which
  are told apart by their scalars.  An argument under options
  is bound as it is, or as the untyped `NULL` if it is
  missing.  There is a text for every argument, and it is
  `NULL` for no others than those that count as one.
-/
theorem toArgument_keeps_type_and_payload :
    (∀ (α : Type) [ToScalar α] (depth : Nat)
      (x : Nested α depth),
      absentArgument (Nested α depth) =
          .null (ToScalar.type α) ∧
        (toArgument x).type? = some (ToScalar.type α) ∧
        (toArgument x = absentArgument (Nested α depth) ↔
          x.IsAbsent) ∧
        ((toArgument x).agrees
              (absentArgument (Nested α depth)) =
            true ↔
          x.IsAbsent) ∧
        ((toArgument x).isNull = true ↔ x.IsAbsent) ∧
        (x.IsAbsent ∨ ∃ a, x.Holds a) ∧
        ∀ a, x.Holds a →
          toArgument x = .scalar (ToScalar.toScalar a)) ∧
    (∀ base : BaseType,
      ToScalar.type base.Carrier = base.type ∧
        ∀ a : base.Carrier,
          base.Carries a (ToScalar.toScalar a)) ∧
    (∀ type : ScalarType,
      ToScalar.type type.Native = type ∧
        (∀ a b : type.Native,
          ToScalar.toScalar a = ToScalar.toScalar b →
            a = b) ∧
        ∀ value : Scalar,
          value.type = type →
            ∃ a : type.Native,
              ToScalar.toScalar a = value) ∧
    (∀ (depth : Nat) (x : Nested Argument depth),
      absentArgument (Nested Argument depth) = .untyped ∧
        (x.IsAbsent → toArgument x = .untyped) ∧
        (x.IsAbsent ∨ ∃ arg, x.Holds arg) ∧
        ∀ arg, x.Holds arg → toArgument x = arg) ∧
    (∀ arg : Argument,
      arg.shown? = some arg.text ∧
        (arg.text = "NULL" ↔ arg.isNull = true)) := by
  refine ⟨?_, ?_, ?_, ?_, ?_⟩
  · intro α _ depth x
    have hNull :
        absentArgument (Nested α depth) =
          .null (ToScalar.type α) :=
      absentArgument_nested depth
    have hAbsent := x.toArgument_eq_absentArgument_iff
    refine
      ⟨hNull, x.type?_toArgument, hAbsent, ?_,
        x.isNull_toArgument_iff, x.isAbsent_or_holds,
        fun a hHolds => toArgument_of_holds hHolds⟩
    rw [← hAbsent, hNull, Argument.agrees_null_iff]
  · intro base
    exact ⟨base.type_carrier, base.carries_toScalar⟩
  · intro type
    refine
      ⟨ToScalar.type_native type,
        fun a b hEq => ToScalar.eq_of_toScalar_native hEq,
        ?_⟩
    rintro value rfl
    exact ToScalar.exists_native value
  · intro depth x
    exact
      ⟨absentArgument_nested depth, toArgument_of_isAbsent,
        x.isAbsent_or_holds,
        fun arg hHolds => toArgument_of_holds hHolds⟩
  · intro arg
    exact ⟨(Option.some_get _).symm, arg.text_eq_null_iff⟩

/-
  A number that is missing inside of a present option is
  bound as the `NULL` of its type, one that is there keeps
  its sign, and a text that spells a `NULL` is not taken for
  one.
-/
theorem toArgument_keeps_type_and_payload_of_two_options :
    toArgument (some (none : Option Int16)) =
        .null (.int .w16) ∧
      (∃ bits : BitVec 16,
        bits.toInt = -3 ∧
          toArgument (some (some (-3 : Int16))) =
            .scalar (.int .w16 bits)) ∧
      toArgument (some (some "NULL".toSlice)) =
        .scalar (.varchar "NULL") ∧
      (toArgument (some (some "NULL".toSlice))).text ≠
        "NULL" := by
  have hLaw := toArgument_keeps_type_and_payload
  let number : Nested Int16 2 := present missing
  let negative : Nested Int16 2 := present (present (bare (-3)))
  let word : Nested String.Slice 2 :=
    present (present (bare "NULL".toSlice))
  have hNumber := hLaw.1 Int16 2 number
  have hAbsent : number.IsAbsent := IsAbsent.here.inside
  have hNegative : negative.Holds (-3) :=
    (Holds.bare _).present.present
  have hWord : word.Holds "NULL".toSlice :=
    (Holds.bare _).present.present
  have hBound :
      ∃ bits : BitVec 16,
        bits.toInt = -3 ∧
          toArgument negative = .scalar (.int .w16 bits) := by
    have hEq :=
      (hLaw.1 Int16 2 negative).2.2.2.2.2.2 _ hNegative
    have hKept :=
      (hLaw.2.1 (.native (.int .w16))).2 (-3 : Int16)
    rw [hEq]
    cases hKept with
    | native hNative =>
        cases hNative with
        | int hValue => exact ⟨_, hValue, rfl⟩
  have hSpelled :
      toArgument word = .scalar (.varchar "NULL") := by
    have hEq :=
      (hLaw.1 String.Slice 2 word).2.2.2.2.2.2 _ hWord
    have hKept := (hLaw.2.1 .textSlice).2 "NULL".toSlice
    rw [hEq, ← @String.copy_toSlice "NULL"]
    cases hKept with
    | textSlice => rfl
  have hShown := (hLaw.2.2.2.2 (toArgument word)).2
  refine
    ⟨(hNumber.2.2.1.mpr hAbsent).trans hNumber.1, hBound,
      hSpelled, ?_⟩
  intro hText
  have hNull := hShown.mp hText
  rw [hSpelled] at hNull
  cases hNull

end Nested

end RecordQuery
