import RecordQuery.Argument.Conversion

/-
  Filters: the conditions that select records.

  Key definitions include:
    * `RecordQuery.Operator`
    * `RecordQuery.Expr`
    * `RecordQuery.Predicate`
    * `RecordQuery.Predicate.expr`
    * `RecordQuery.Predicate.conjunction`

  Key theorems include:
    * `RecordQuery.Predicate.conjunction_concat`

  An expression may apply any operator to one or to two
  operands.  The builders `eq`, `not`, `and` and `or` use
  `NOT` with one operand and the others with two; whether an
  expression made by hand does so is found out when it is
  rendered.
-/

------------------------------------------------------------
-- Expressions
------------------------------------------------------------

namespace RecordQuery

/- The operators of conditions. -/
inductive Operator where
  | eq
  | not
  | and
  | or
  deriving DecidableEq, Repr

/- The spelling of an operator. -/
def Operator.text : Operator → String
| .eq => "="
| .not => "NOT"
| .and => "AND"
| .or => "OR"

/-
  A field of the record type by its name, an argument, or an
  operator with one or two operands.
-/
inductive Expr where
  | column (field : String)
  | argument (value : Argument)
  | unary (operator : Operator) (right : Expr)
  | binary (operator : Operator) (left right : Expr)
  deriving DecidableEq, Repr

end RecordQuery

------------------------------------------------------------
-- Predicates
------------------------------------------------------------

namespace RecordQuery

/- An operator applied to its operands. -/
structure Predicate where
  operator : Operator
  left : Option Expr
  right : Expr
  deriving DecidableEq, Repr

namespace Predicate

/- The expression that a predicate is. -/
def expr
    (p : Predicate) :
    Expr :=
  match p.left with
  | none => .unary p.operator p.right
  | some left => .binary p.operator left p.right

/- A field compared with a value. -/
def eq
    {α : Type}
    [ToArgument α]
    (field : String)
    (value : α) :
    Predicate where
  operator := .eq
  left := some (.column field)
  right := .argument (toArgument value)

/- The negation of a predicate. -/
def not
    (p : Predicate) :
    Predicate where
  operator := .not
  left := none
  right := p.expr

/- Both of two predicates. -/
def and
    (p q : Predicate) :
    Predicate where
  operator := .and
  left := some p.expr
  right := q.expr

/- At least one of two predicates. -/
def or
    (p q : Predicate) :
    Predicate where
  operator := .or
  left := some p.expr
  right := q.expr

/-
  All predicates of a list, joined from the left; an empty
  list is no condition at all.
-/
def conjunction :
    List Predicate → Option Predicate
| [] => none
| p :: ps => some (ps.foldl Predicate.and p)

/- One more predicate is joined to the others by `and`. -/
theorem conjunction_concat
    {p : Predicate}
    (ps : List Predicate)
    (q : Predicate)
    (hSome : conjunction ps = some p) :
    conjunction (ps ++ [q]) = some (p.and q) := by
  cases ps with
  | nil => cases hSome
  | cons first rest =>
      cases hSome
      simp [conjunction]

end Predicate

end RecordQuery
