import RecordQuery.Filter.Basic

/-
  The arguments of an expression, and what is left of it
  without them.

  Key definitions include:
    * `RecordQuery.Expr.arguments`
    * `RecordQuery.Expr.blank`

  Key theorems include:
    * `RecordQuery.Expr.length_arguments_of_blank_eq`
    * `RecordQuery.Expr.eq_of_blank_eq`

  Two expressions with equal blank forms differ in the
  contents of their arguments only.
-/

------------------------------------------------------------
-- Arguments And Blank Forms
------------------------------------------------------------

namespace RecordQuery

namespace Expr

/- The arguments of an expression from left to right. -/
def arguments : Expr → List Argument
| .column _ => []
| .argument value => [value]
| .unary _ right => right.arguments
| .binary _ left right => left.arguments ++ right.arguments

/- An expression whose arguments are all the same. -/
def blank : Expr → Expr
| .column field => .column field
| .argument _ => .argument .untyped
| .unary operator right => .unary operator right.blank
| .binary operator left right =>
    .binary operator left.blank right.blank

/- A blank form has as many arguments. -/
theorem length_arguments_blank
    (e : Expr) :
    e.blank.arguments.length = e.arguments.length := by
  induction e with
  | column field => rfl
  | argument value => rfl
  | unary operator right ih => exact ih
  | binary operator left right leftIH rightIH =>
      simp [blank, arguments, leftIH, rightIH]

/- Equal blank forms mean equally many arguments. -/
theorem length_arguments_of_blank_eq
    {e other : Expr}
    (hBlank : e.blank = other.blank) :
    e.arguments.length = other.arguments.length := by
  rw [← length_arguments_blank e, hBlank,
    length_arguments_blank other]

/-
  The blank form and the arguments together determine an
  expression.
-/
theorem eq_of_blank_eq
    {e other : Expr}
    (hBlank : e.blank = other.blank)
    (hArguments : e.arguments = other.arguments) :
    e = other := by
  induction e generalizing other with
  | column field =>
      cases other <;> simp_all [blank]
  | argument value =>
      cases other <;> simp_all [blank, arguments]
  | unary operator right ih =>
      cases other with
      | unary operator' right' =>
          injection hBlank with hOperator hRight
          rw [hOperator, ih hRight hArguments]
      | column field => cases hBlank
      | argument value => cases hBlank
      | binary operator' left' right' => cases hBlank
  | binary operator left right leftIH rightIH =>
      cases other with
      | binary operator' left' right' =>
          injection hBlank with hOperator hLeft hRight
          -- The left arguments end at the same place.
          have hParts :=
            List.append_inj hArguments
              (length_arguments_of_blank_eq hLeft)
          rw [hOperator, leftIH hLeft hParts.1,
            rightIH hRight hParts.2]
      | column field => cases hBlank
      | argument value => cases hBlank
      | unary operator' right' => cases hBlank

end Expr

end RecordQuery
