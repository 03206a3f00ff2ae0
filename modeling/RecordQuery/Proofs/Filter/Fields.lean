import RecordQuery.Proofs.Filter.Shape
import RecordQuery.Proofs.Sql.FirstFault

/-
  The fields that an expression names.

  Key definitions include:
    * `RecordQuery.Expr.fields`

  Key theorems include:
    * `RecordQuery.Expr.Flat.completes`

  An expression in which every operator has as many operands
  as it takes can only fail at a field without a column.
-/

------------------------------------------------------------
-- Fields
------------------------------------------------------------

namespace RecordQuery

namespace Expr

/- The fields of an expression from left to right. -/
def fields : Expr → List String
| .column field => [field]
| .argument _ => []
| .unary _ right => right.fields
| .binary _ left right => left.fields ++ right.fields

variable {m : Mapping}

/- With a column for each of its fields it completes. -/
theorem Flat.completes
    {e : Expr}
    (hFlat : e.Flat)
    (hFields :
      ∀ field ∈ e.fields,
        (m.column? field).isSome = true) :
    e.Completes m := by
  induction hFlat with
  | column name =>
      have hColumn := hFields name (List.mem_singleton_self _)
      rcases Option.isSome_iff_exists.mp hColumn with
        ⟨column, hColumn⟩
      exact completes_column hColumn
  | argument value => exact completes_argument m value
  | negation _ ih => exact (ih hFields).unary_not
  | comparison _ _ _ _ leftIH rightIH =>
      rw [fields, List.forall_mem_append] at hFields
      exact
        (leftIH hFields.1).binary (by decide)
          (rightIH hFields.2)
  | @connective operator _ _ hOperator _ _ leftIH rightIH =>
      have hNot : operator ≠ .not := by
        rintro rfl
        simp at hOperator
      rw [fields, List.forall_mem_append] at hFields
      exact
        (leftIH hFields.1).binary hNot (rightIH hFields.2)

end Expr

end RecordQuery
