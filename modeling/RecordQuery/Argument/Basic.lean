import RecordQuery.Argument.Scalar
import RecordQuery.Text.Substitution

/-
  Arguments: what is bound to the placeholders of a
  statement.

  Key definitions include:
    * `RecordQuery.Argument`
    * `RecordQuery.Argument.isNull`
    * `RecordQuery.Argument.shown?`
    * `RecordQuery.Argument.text`
    * `RecordQuery.Argument.agrees`

  Key theorems include:
    * `RecordQuery.Argument.isNull_null`
    * `RecordQuery.Argument.isSome_shown?`

  An argument is a scalar, a `NULL` of some scalar type, or
  a `NULL` of no type.  Its text is what is shown to people;
  it is never part of a statement.
-/

------------------------------------------------------------
-- Arguments
------------------------------------------------------------

namespace RecordQuery

/- A scalar, a typed `NULL` or the untyped `NULL`. -/
inductive Argument where
  | untyped
  | null (type : ScalarType)
  | scalar (value : Scalar)
  deriving DecidableEq, Repr

namespace Argument

instance : Inhabited Argument :=
  ⟨.untyped⟩

/-
  Whether an argument is a `NULL`.  The types are listed one
  by one; the `NULL` of any other type would not count.
-/
def isNull : Argument → Bool
| .untyped => true
| .null .boolean => true
| .null (.int .w8) => true
| .null (.int .w16) => true
| .null (.int .w32) => true
| .null (.int .w64) => true
| .null (.int .w128) => true
| .null (.uint .w8) => true
| .null (.uint .w16) => true
| .null (.uint .w32) => true
| .null (.uint .w64) => true
| .null (.uint .w128) => true
| .null .float32 => true
| .null .float64 => true
| .null .decimal => true
| .null .char => true
| .null .varchar => true
| .null .blob => true
| .null .date => true
| .null .time => true
| .null .timestamp => true
| .null .zonedTimestamp => true
| .null .uuid => true
| _ => false

/-
  Whether two arguments are equal as values; a `NULL` equals
  the `NULL` of its own type only.
-/
def agrees : Argument → Argument → Bool
| .untyped, .untyped => true
| .null s, .null t => s == t
| .scalar s, .scalar t => s.agrees t
| _, _ => false

end Argument

end RecordQuery

------------------------------------------------------------
-- Text
------------------------------------------------------------

namespace RecordQuery

/- A text between single quotes, taken as it is. -/
def quoted
    (body : String) :
    String :=
  "'" ++ body ++ "'"

/- The bytes of a blob as escaped hexadecimal pairs. -/
def blobText
    (bytes : List UInt8) :
    String :=
  String.join
    (bytes.map (fun byte => "\\x" ++ Text.upperHexByte byte))

/-
  Numbers and booleans are bare, all other scalars quoted.
  Quotes inside a text are doubled; a single character is
  written as it is.
-/
def Scalar.text : Scalar → String
| .boolean value => if value then "true" else "false"
| .int _ value => Text.integer value.toInt
| .uint _ value => Text.natural value.toNat
| .float32 value => value.text
| .float64 value => value.text
| .decimal value => value.text
| .char value => quoted (String.singleton value)
| .varchar value =>
    quoted (Text.substitute '\x27' "''" value)
| .blob value => quoted (blobText value)
| .date value => quoted value.text
| .time value => quoted value.text
| .timestamp value => quoted value.text
| .zonedTimestamp value => quoted value.text
| .uuid value => quoted value.text

namespace Argument

/-
  What is shown for an argument.  Every `NULL` is written
  alike, and there is nothing to show for an argument that
  neither counts as one nor holds a scalar.
-/
def shown?
    (arg : Argument) :
    Option String :=
  if arg.isNull then
    some "NULL"
  else
    match arg with
    | .scalar value => some value.text
    | .untyped => none
    | .null _ => none

/- No type is left out of the list. -/
theorem isNull_null
    (type : ScalarType) :
    isNull (.null type) = true := by
  cases type with
  | int width => cases width <;> rfl
  | uint width => cases width <;> rfl
  | boolean | float32 | float64 | decimal | char => rfl
  | varchar | blob | date | time | timestamp => rfl
  | zonedTimestamp | uuid => rfl

/- A scalar is not in the list. -/
theorem isNull_scalar
    (value : Scalar) :
    isNull (.scalar value) = false :=
  rfl

/- A `NULL` is shown without its type. -/
theorem shown?_null
    (type : ScalarType) :
    shown? (.null type) = some "NULL" := by
  unfold shown?
  rw [if_pos (isNull_null type)]

/- All arguments without a scalar count as `NULL`. -/
theorem isSome_shown?
    (arg : Argument) :
    arg.shown?.isSome = true := by
  cases arg with
  | untyped => rfl
  | null type => rw [shown?_null, Option.isSome_some]
  | scalar value => rfl

/- The text that is shown for an argument. -/
def text
    (arg : Argument) :
    String :=
  arg.shown?.get arg.isSome_shown?

/- The untyped `NULL` is shown as one. -/
theorem text_untyped :
    text .untyped = "NULL" :=
  rfl

/- A typed `NULL` has the text of the untyped one. -/
theorem text_null
    (type : ScalarType) :
    text (.null type) = "NULL" :=
  Option.get_of_eq_some _ (shown?_null type)

/- A scalar is shown by its own text. -/
theorem text_scalar
    (value : Scalar) :
    text (.scalar value) = value.text :=
  rfl

end Argument

end RecordQuery
