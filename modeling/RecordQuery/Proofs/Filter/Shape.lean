import RecordQuery.Filter.Basic

/-
  Shapes of expressions.

  Key definitions include:
    * `RecordQuery.Expr.operator?`
    * `RecordQuery.Expr.FlatComparisons`
    * `RecordQuery.Expr.Flat`
    * `RecordQuery.Predicate.Built`

  Key theorems include:
    * `RecordQuery.Predicate.Built.flat`
    * `RecordQuery.Predicate.Built.flatComparisons`

  Comparisons are flat if none is an operand of another one.
  The builders make no other expressions.
-/

------------------------------------------------------------
-- Flat Comparisons
------------------------------------------------------------

namespace RecordQuery

namespace Expr

/- The operator at the root, if there is one. -/
def operator? : Expr → Option Operator
| .column _ => none
| .argument _ => none
| .unary operator _ => some operator
| .binary operator _ _ => some operator

/- No operand of a comparison is itself a comparison. -/
def FlatComparisons : Expr → Prop
| .column _ => True
| .argument _ => True
| .unary operator right =>
    (operator = .eq → right.operator? ≠ some .eq) ∧
      right.FlatComparisons
| .binary operator left right =>
    (operator = .eq →
        left.operator? ≠ some .eq ∧
          right.operator? ≠ some .eq) ∧
      left.FlatComparisons ∧
      right.FlatComparisons

/-
  Expressions in which every operator has as many operands
  as it takes and comparisons are flat.
-/
inductive Flat : Expr → Prop where
  | column (name : String) : Flat (.column name)
  | argument (value : Argument) : Flat (.argument value)
  | negation
      {right : Expr}
      (hRight : Flat right) :
      Flat (.unary .not right)
  | comparison
      {left right : Expr}
      (hLeft : Flat left)
      (hRight : Flat right)
      (hLeftRoot : left.operator? ≠ some .eq)
      (hRightRoot : right.operator? ≠ some .eq) :
      Flat (.binary .eq left right)
  | connective
      {operator : Operator}
      {left right : Expr}
      (hOperator : operator = .and ∨ operator = .or)
      (hLeft : Flat left)
      (hRight : Flat right) :
      Flat (.binary operator left right)

end Expr

end RecordQuery

------------------------------------------------------------
-- Built Predicates
------------------------------------------------------------

namespace RecordQuery

namespace Predicate

/- The predicates made by `eq`, `not`, `and` and `or`. -/
inductive Built : Predicate → Prop where
  | eq
      {α : Type}
      [ToArgument α]
      (field : String)
      (value : α) :
      Built (.eq field value)
  | not
      {p : Predicate}
      (hOperand : Built p) :
      Built p.not
  | and
      {p q : Predicate}
      (hLeft : Built p)
      (hRight : Built q) :
      Built (p.and q)
  | or
      {p q : Predicate}
      (hLeft : Built p)
      (hRight : Built q) :
      Built (p.or q)

/- Built predicates are flat. -/
theorem Built.flat
    {p : Predicate}
    (hBuilt : p.Built) :
    p.expr.Flat := by
  induction hBuilt with
  | eq field value =>
      exact
        .comparison (.column field) (.argument _)
          (fun hRoot => nomatch hRoot)
          (fun hRoot => nomatch hRoot)
  | not hOperand ih => exact .negation ih
  | and hLeft hRight leftIH rightIH =>
      exact .connective (Or.inl rfl) leftIH rightIH
  | or hLeft hRight leftIH rightIH =>
      exact .connective (Or.inr rfl) leftIH rightIH

end Predicate

/- Flat expressions have flat comparisons. -/
theorem Expr.Flat.flatComparisons
    {e : Expr}
    (hFlat : e.Flat) :
    e.FlatComparisons := by
  induction hFlat with
  | column name => trivial
  | argument value => trivial
  | negation hRight ih =>
      exact ⟨(fun hEq => nomatch hEq), ih⟩
  | comparison _ _ hLeftRoot hRightRoot leftIH rightIH =>
      exact
        ⟨fun _ => ⟨hLeftRoot, hRightRoot⟩, leftIH, rightIH⟩
  | connective hOperator _ _ leftIH rightIH =>
      refine ⟨?_, leftIH, rightIH⟩
      intro hEq
      subst hEq
      simp at hOperator

/- Built predicates have flat comparisons. -/
theorem Predicate.Built.flatComparisons
    {p : Predicate}
    (hBuilt : p.Built) :
    p.expr.FlatComparisons :=
  hBuilt.flat.flatComparisons

end RecordQuery
