import RecordQuery.Proofs.Filter.Shape
import RecordQuery.Proofs.Sql.Binding

/-
  The wording of expressions over columns.

  Key definitions include:
    * `RecordQuery.Expr.withColumns?`
    * `RecordQuery.Expr.wording`

  Key theorems include:
    * `RecordQuery.Expr.exists_rendersAs`
    * `RecordQuery.Expr.chars_comparison`
    * `RecordQuery.Expr.chars_connective`

  Once every field has been replaced by its column, the
  marks of an expression do not depend on a mapping.  What
  is rendered without a fault is so replaced.
-/

------------------------------------------------------------
-- Expressions Over Columns
------------------------------------------------------------

namespace RecordQuery

namespace Expr

/-
  An expression with every field replaced by its column, if
  the mapping has all of them.
-/
def withColumns?
    (m : Mapping) :
    Expr → Option Expr
| .column field => (m.column? field).map .column
| .argument value => some (.argument value)
| .unary operator right =>
    (right.withColumns? m).map (.unary operator)
| .binary operator left right =>
    match left.withColumns? m, right.withColumns? m with
    | some left, some right =>
        some (.binary operator left right)
    | _, _ => none

/- The marks of an expression over columns. -/
def wording : Expr → List Mark
| .column name => [.identifier name]
| .argument value => [.argument value]
| .unary operator right =>
    .fixed (" " ++ operator.text ++ " (") ::
      (right.wording ++ [.fixed ")"])
| .binary operator left right =>
    operator.opening.marks ++
      (left.wording ++
        (operator.joint.marks ++
          (right.wording ++ operator.closing.marks)))

/- The wording has the arguments of the expression. -/
theorem arguments_wording
    (e : Expr) :
    Mark.arguments e.wording = e.arguments := by
  induction e with
  | column name => rfl
  | argument value => rfl
  | unary operator right ih =>
      change
        Mark.arguments (right.wording ++ [.fixed ")"]) =
          right.arguments
      rw [Mark.arguments_append, ih]
      exact List.append_nil _
  | binary operator left right leftIH rightIH =>
      have hNone :
          Mark.arguments operator.opening.marks = [] ∧
            Mark.arguments operator.joint.marks = [] ∧
            Mark.arguments operator.closing.marks = [] := by
        cases operator <;> exact ⟨rfl, rfl, rfl⟩
      simp only [wording, arguments, Mark.arguments_append,
        hNone.1, hNone.2.1, hNone.2.2, leftIH, rightIH,
        List.nil_append, List.append_nil]

end Expr

end RecordQuery

------------------------------------------------------------
-- Rendering Over Columns
------------------------------------------------------------

namespace RecordQuery

namespace Expr

/-
  Under a mapping an expression is rendered as `tree`, which
  has the columns in place of the fields.
-/
structure RendersAs
    (m : Mapping)
    (e tree : Expr) :
    Prop where
  columns : e.withColumns? m = some tree
  flat : tree.Flat
  root : tree.operator? = e.operator?
  marks : (e.emission m).marks = tree.wording

variable {m : Mapping}

/- Both operands have columns in place of fields. -/
theorem exists_operands_of_withColumns?
    {operator : Operator}
    {left right tree : Expr}
    (hColumns :
      (binary operator left right).withColumns? m =
        some tree) :
    ∃ first second,
      left.withColumns? m = some first ∧
        right.withColumns? m = some second ∧
        tree = .binary operator first second := by
  unfold withColumns? at hColumns
  split at hColumns
  · rename_i first second hFirst hSecond
    exact
      ⟨first, second, hFirst, hSecond,
        (Option.some.inj hColumns).symm⟩
  · cases hColumns

/- The operator at the root stays the same. -/
theorem operator?_of_withColumns?
    {e tree : Expr}
    (hColumns : e.withColumns? m = some tree) :
    tree.operator? = e.operator? := by
  cases e with
  | column field =>
      rcases Option.map_eq_some_iff.mp hColumns with
        ⟨_, _, rfl⟩
      rfl
  | argument value =>
      cases hColumns
      rfl
  | unary operator right =>
      rcases Option.map_eq_some_iff.mp hColumns with
        ⟨_, _, rfl⟩
      rfl
  | binary operator left right =>
      rcases exists_operands_of_withColumns? hColumns with
        ⟨_, _, _, _, rfl⟩
      rfl

/- The arguments stay as they are. -/
theorem arguments_of_withColumns?
    {e tree : Expr}
    (hColumns : e.withColumns? m = some tree) :
    tree.arguments = e.arguments := by
  induction e generalizing tree with
  | column field =>
      rcases Option.map_eq_some_iff.mp hColumns with
        ⟨_, _, rfl⟩
      rfl
  | argument value =>
      cases hColumns
      rfl
  | unary operator right ih =>
      rcases Option.map_eq_some_iff.mp hColumns with
        ⟨inner, hInner, rfl⟩
      change inner.arguments = right.arguments
      exact ih hInner
  | binary operator left right leftIH rightIH =>
      rcases exists_operands_of_withColumns? hColumns with
        ⟨first, second, hFirst, hSecond, rfl⟩
      rw [arguments, arguments, leftIH hFirst,
        rightIH hSecond]

/- A field without a fault is rendered as its column. -/
theorem exists_rendersAs_column
    (field : String)
    (hFault : (m.emission field).fault = none) :
    ∃ tree, (Expr.column field).RendersAs m tree := by
  unfold Mapping.emission Mapping.column at hFault
  cases hColumn : m.column? field with
  | none =>
      rw [hColumn] at hFault
      cases hFault
  | some column =>
      refine ⟨.column column, ?_, .column column, rfl, ?_⟩
      · simp [withColumns?, hColumn]
      · simp [emission, Mapping.emission, Mapping.column,
          hColumn, Emission.ofMark, wording]

/- A negation is rendered as that of its operand's tree. -/
theorem RendersAs.negation
    {right tree : Expr}
    (hFault : (right.emission m).fault = none)
    (hRight : right.RendersAs m tree) :
    (unary .not right).RendersAs m (.unary .not tree) := by
  refine
    ⟨by simp [withColumns?, hRight.columns],
      .negation hRight.flat, rfl, ?_⟩
  rw [emission, Emission.fixed_append,
    Emission.append_of_fault_eq_none _ hFault, hRight.marks]
  rfl

/- The marks of two operands are those of their trees. -/
theorem marks_emission_binary
    {operator : Operator}
    {left right leftTree rightTree : Expr}
    (hOperator : operator ≠ .not)
    (hLeftFault : (left.emission m).fault = none)
    (hRightFault : (right.emission m).fault = none)
    (hLeft : left.RendersAs m leftTree)
    (hRight : right.RendersAs m rightTree) :
    ((binary operator left right).emission m).marks =
      (binary operator leftTree rightTree).wording := by
  rw [emission_binary m left right hOperator,
    Emission.append_of_fault_eq_none _
      operator.fault_opening,
    Emission.append_of_fault_eq_none _ hLeftFault,
    Emission.append_of_fault_eq_none _ operator.fault_joint,
    Emission.append_of_fault_eq_none _ hRightFault]
  simp only [wording, hLeft.marks, hRight.marks]

/-
  Whatever is rendered without a fault, with flat
  comparisons, is rendered as some tree over columns.
-/
theorem exists_rendersAs
    (m : Mapping)
    (e : Expr)
    (hFlat : e.FlatComparisons)
    (hFault : (e.emission m).fault = none) :
    ∃ tree, e.RendersAs m tree := by
  induction e with
  | column field => exact exists_rendersAs_column field hFault
  | argument value =>
      exact
        ⟨.argument value, rfl, .argument value, rfl, rfl⟩
  | unary operator right ih =>
      cases operator with
      | not =>
          rw [emission, Emission.fault_append_eq_none_iff,
            Emission.fault_append_eq_none_iff] at hFault
          rcases hFault with ⟨_, hRightFault, _⟩
          rcases ih hFlat.2 hRightFault with ⟨tree, hRight⟩
          exact ⟨_, hRight.negation hRightFault⟩
      | eq | and | or => cases hFault
  | binary operator left right leftIH rightIH =>
      by_cases hOperator : operator = .not
      · subst hOperator
        cases hFault
      · rcases hFlat with ⟨hRoots, hLeftFlat, hRightFlat⟩
        have hParts := hFault
        rw [emission_binary m left right hOperator] at hParts
        simp only [Emission.fault_append_eq_none_iff]
          at hParts
        rcases hParts with
          ⟨_, hLeftFault, _, hRightFault, _⟩
        rcases leftIH hLeftFlat hLeftFault with
          ⟨leftTree, hLeft⟩
        rcases rightIH hRightFlat hRightFault with
          ⟨rightTree, hRight⟩
        refine
          ⟨.binary operator leftTree rightTree,
            by simp [withColumns?, hLeft.columns,
              hRight.columns],
            ?_, rfl,
            marks_emission_binary hOperator hLeftFault
              hRightFault hLeft hRight⟩
        cases operator with
        | not => exact absurd rfl hOperator
        | eq =>
            rcases hRoots rfl with ⟨hLeftRoot, hRightRoot⟩
            exact
              .comparison hLeft.flat hRight.flat
                (hLeft.root ▸ hLeftRoot)
                (hRight.root ▸ hRightRoot)
        | and =>
            exact
              .connective (Or.inl rfl) hLeft.flat hRight.flat
        | or =>
            exact
              .connective (Or.inr rfl) hLeft.flat hRight.flat

end Expr

end RecordQuery

------------------------------------------------------------
-- Characters
------------------------------------------------------------

namespace RecordQuery

/-
  The characters of marks in a dialect, when `counter` is
  the last number that was given before.
-/
def Mark.chars
    (d : Dialect)
    (counter : UInt32)
    (marks : List Mark) :
    List Char :=
  (Lexeme.texts d (number counter marks)).toList

/- Characters are put one after the other. -/
theorem Mark.chars_append
    (d : Dialect)
    (counter : UInt32)
    (marks more : List Mark) :
    chars d counter (marks ++ more) =
      chars d counter marks ++
        chars d
          (counter + UInt32.ofNat (arguments marks).length)
          more := by
  rw [chars, number_append, Lexeme.texts_append,
    String.toList_append]
  rfl

/- A fixed text is written as it is. -/
theorem Mark.chars_fixed
    (d : Dialect)
    (counter : UInt32)
    (text : String) :
    chars d counter [.fixed text] = text.toList := by
  simp [chars, number, Lexeme.text]

/- After a fixed text the numbers are the same. -/
theorem Mark.chars_fixed_append
    (d : Dialect)
    (counter : UInt32)
    (text : String)
    (marks : List Mark) :
    chars d counter ([.fixed text] ++ marks) =
      text.toList ++ chars d counter marks := by
  have hSame : counter + UInt32.ofNat 0 = counter :=
    UInt32.add_zero counter
  rw [chars_append, chars_fixed, arguments_fixed,
    List.length_nil, hSame]

namespace Expr

/- The characters of an expression over columns. -/
def chars
    (d : Dialect)
    (counter : UInt32)
    (e : Expr) :
    List Char :=
  Mark.chars d counter e.wording

variable (d : Dialect)
variable (counter : UInt32)

/- A column is written as a quoted identifier. -/
theorem chars_column
    (name : String) :
    (column name).chars d counter =
      (d.quote name).toList := by
  simp [chars, wording, Mark.chars, Mark.number,
    Lexeme.text]

/- An argument is written as the next placeholder. -/
theorem chars_argument
    (value : Argument) :
    (argument value).chars d counter =
      (d.placeholder (counter + 1)).toList := by
  simp [chars, wording, Mark.chars, Mark.number,
    Lexeme.text]

/- A negation is written with its operand in parentheses. -/
theorem chars_negation
    (right : Expr) :
    (unary .not right).chars d counter =
      " NOT (".toList ++
        (right.chars d counter ++ [')']) := by
  have hWording :
      (unary .not right).wording =
        [.fixed " NOT ("] ++
          (right.wording ++ [.fixed ")"]) :=
    rfl
  rw [chars, hWording, Mark.chars_fixed_append,
    Mark.chars_append, Mark.chars_fixed]
  rfl

/- A comparison is written without parentheses. -/
theorem chars_comparison
    (left right : Expr) :
    (binary .eq left right).chars d counter =
      left.chars d counter ++
        (" = ".toList ++
          right.chars d
            (counter +
              UInt32.ofNat left.arguments.length)) := by
  have hWording :
      (binary .eq left right).wording =
        left.wording ++ ([.fixed " = "] ++ right.wording) := by
    rw [← List.append_nil right.wording]
    rfl
  rw [chars, hWording, Mark.chars_append,
    Mark.chars_fixed_append, arguments_wording]
  rfl

/- A connective is written with parentheses on both sides. -/
theorem chars_connective
    {operator : Operator}
    (left right : Expr)
    (hOperator : operator = .and ∨ operator = .or) :
    (binary operator left right).chars d counter =
      '(' ::
        (left.chars d counter ++
          ((") " ++ operator.text ++ " (").toList ++
            (right.chars d
                (counter +
                  UInt32.ofNat left.arguments.length) ++
              [')']))) := by
  have hWording :
      (binary operator left right).wording =
        [.fixed "("] ++
          (left.wording ++
            ([.fixed (") " ++ operator.text ++ " (")] ++
              (right.wording ++ [.fixed ")"]))) := by
    rcases hOperator with hAnd | hOr
    · subst hAnd
      rfl
    · subst hOr
      rfl
  rw [chars, hWording, Mark.chars_fixed_append,
    Mark.chars_append, Mark.chars_fixed_append,
    Mark.chars_append, Mark.chars_fixed, arguments_wording]
  rfl

end Expr

end RecordQuery
