import RecordQuery.Proofs.Sql.Parameterization
import RecordQuery.Proofs.Sql.Wording
import RecordQuery.Proofs.Text.Quoting

/-
  Different statements have different texts or arguments.

  Key definitions include:
    * `RecordQuery.Dialect.Legible`
    * `RecordQuery.Expr.ReadableOperand`
    * `RecordQuery.Expr.ReadableCondition`

  Key theorems include:
    * `RecordQuery.Dialect.Legible.quote_append_inj`
    * `RecordQuery.Expr.Flat.readable`
    * `RecordQuery.Select.same_statement_same_selection`

  A legible dialect doubles the quotes in identifiers.  In
  such a dialect the first character of an operand tells
  what kind of operand it is, and its end can be found from
  what follows, so that a text can be read in one way only.
-/

------------------------------------------------------------
-- Legible Dialects
------------------------------------------------------------

namespace RecordQuery

namespace Dialect

/-
  A dialect that puts identifiers between quotes, with the
  quotes inside doubled, and whose placeholders begin unlike
  every other kind of operand.
-/
structure Legible
    (d : Dialect)
    (quote : Char) :
    Prop where
  toList_quote :
    ∀ name,
      (d.quote name).toList =
        quote :: (Text.doubled quote name.toList ++ [quote])
  placeholder :
    ∀ number, ∃ c rest,
      (d.placeholder number).toList = c :: rest ∧
        c ≠ quote ∧ c ≠ ' ' ∧ c ≠ '('
  ne_space : quote ≠ ' '
  ne_opening : quote ≠ '('
  ne_closing : quote ≠ ')'
  ne_semicolon : quote ≠ ';'

/- The generic dialect is legible. -/
theorem legible_generic :
    generic.Legible '\x60' := by
  constructor
  · intro name
    simp only [generic, Delimiters.dialect,
      String.toList_append, Text.toList_substitute]
    rfl
  · intro number
    refine
      ⟨'?', [], ?_, by decide, by decide, by decide⟩
    simp [generic, Delimiters.dialect]
  · decide
  · decide
  · decide
  · decide

/- The dialect with dollar numbers is legible. -/
theorem legible_postgres :
    postgres.Legible '\"' := by
  constructor
  · intro name
    simp only [postgres, Delimiters.dialect,
      String.toList_append, Text.toList_substitute]
    rfl
  · intro number
    refine
      ⟨'$', (Text.natural number.toNat).toList, ?_,
        by decide, by decide, by decide⟩
    simp only [postgres, Delimiters.dialect, if_true,
      String.toList_append]
    rfl
  · decide
  · decide
  · decide
  · decide

/- Both named dialects are legible. -/
theorem exists_legible
    {d : Dialect}
    (hDialect : d = .generic ∨ d = .postgres) :
    ∃ quote, d.Legible quote := by
  rcases hDialect with rfl | rfl
  · exact ⟨_, legible_generic⟩
  · exact ⟨_, legible_postgres⟩

/-
  A quoted identifier that is not followed by a quote can be
  told from what follows.
-/
theorem Legible.quote_append_inj
    {d : Dialect}
    {quote : Char}
    (hLegible : d.Legible quote)
    {name other : String}
    {rest more : List Char}
    (hRest : rest.head? ≠ some quote)
    (hMore : more.head? ≠ some quote)
    (hEq :
      (d.quote name).toList ++ rest =
        (d.quote other).toList ++ more) :
    name = other ∧ rest = more := by
  rw [hLegible.toList_quote, hLegible.toList_quote] at hEq
  simp only [List.cons_append, List.append_assoc,
    List.nil_append] at hEq
  rcases
      Text.doubled_append_cons_inj hRest hMore
        (List.tail_eq_of_cons_eq hEq) with
    ⟨hName, hSame⟩
  exact ⟨String.toList_inj.mp hName, hSame⟩

end Dialect

end RecordQuery

------------------------------------------------------------
-- First Characters
------------------------------------------------------------

namespace RecordQuery

/- The kinds of operands. -/
inductive Kind where
  | column
  | argument
  | negation
  | connective
  deriving DecidableEq, Repr

/- The kind of operand that begins with a character. -/
def Kind.ofFirst
    (quote c : Char) :
    Kind :=
  if c = quote then
    .column
  else if c = ' ' then
    .negation
  else if c = '(' then
    .connective
  else
    .argument

namespace Expr

/- The kind of an operand, which is not a comparison. -/
def kind : Expr → Kind
| .column _ => .column
| .argument _ => .argument
| .unary _ _ => .negation
| .binary _ _ _ => .connective

variable {d : Dialect}
variable {quote : Char}
variable {e other : Expr}

/- The first character of an operand tells its kind. -/
theorem Flat.exists_first
    (hFlat : e.Flat)
    (hLegible : d.Legible quote)
    (hRoot : e.operator? ≠ some .eq)
    (counter : UInt32) :
    ∃ c rest,
      e.chars d counter = c :: rest ∧
        Kind.ofFirst quote c = e.kind := by
  cases hFlat with
  | column name =>
      refine
        ⟨quote, Text.doubled quote name.toList ++ [quote],
          ?_, ?_⟩
      · rw [chars_column, hLegible.toList_quote]
      · simp [Kind.ofFirst, kind]
  | argument value =>
      rcases hLegible.placeholder (counter + 1) with
        ⟨c, rest, hText, hQuote, hSpace, hOpening⟩
      refine ⟨c, rest, ?_, ?_⟩
      · rw [chars_argument, hText]
      · simp [Kind.ofFirst, kind, hQuote, hSpace, hOpening]
  | @negation right hRight =>
      refine
        ⟨' ',
          "NOT (".toList ++
            (right.chars d counter ++ [')']),
          ?_, ?_⟩
      · rw [chars_negation]
        rfl
      · simp [Kind.ofFirst, kind, hLegible.ne_space.symm]
  | comparison => exact absurd rfl hRoot
  | @connective _ left right hOperator =>
      have hChars :=
        chars_connective d counter left right hOperator
      refine ⟨'(', _, hChars, ?_⟩
      simp [Kind.ofFirst, kind, hLegible.ne_opening.symm]

/- Operands that begin alike are of one kind. -/
theorem Flat.kind_eq
    (hFlat : e.Flat)
    (hOther : other.Flat)
    (hLegible : d.Legible quote)
    (hRoot : e.operator? ≠ some .eq)
    (hOtherRoot : other.operator? ≠ some .eq)
    {counter : UInt32}
    {rest more : List Char}
    (hEq :
      e.chars d counter ++ rest =
        other.chars d counter ++ more) :
    e.kind = other.kind := by
  rcases hFlat.exists_first hLegible hRoot counter with
    ⟨c, _, hChars, hKind⟩
  rcases
      hOther.exists_first hLegible hOtherRoot counter with
    ⟨b, _, hOtherChars, hOtherKind⟩
  rw [hChars, hOtherChars] at hEq
  have hFirst : c = b := List.head_eq_of_cons_eq hEq
  rw [← hKind, ← hOtherKind, hFirst]

end Expr

end RecordQuery

------------------------------------------------------------
-- Reading
------------------------------------------------------------

namespace RecordQuery

/-
  What may follow a condition: the end of parentheses or of
  the statement.
-/
def Closes
    (rest : List Char) :
    Prop :=
  ∃ c tail, rest = c :: tail ∧ (c = ')' ∨ c = ';')

/- What closes does not go on with a quote. -/
theorem Closes.head?_ne
    {d : Dialect}
    {quote : Char}
    {rest : List Char}
    (hCloses : Closes rest)
    (hLegible : d.Legible quote) :
    rest.head? ≠ some quote := by
  rcases hCloses with ⟨c, tail, rfl, hClosing | hSemicolon⟩
  · rw [hClosing]
    intro hEq
    exact hLegible.ne_closing (Option.some.inj hEq).symm
  · rw [hSemicolon]
    intro hEq
    exact hLegible.ne_semicolon (Option.some.inj hEq).symm

/- What closes does not go on with a comparison. -/
theorem Closes.ne_comparison
    {rest more : List Char}
    (hCloses : Closes rest) :
    rest ≠ " = ".toList ++ more := by
  rcases hCloses with ⟨c, tail, rfl, hClosing | hSemicolon⟩
  · rw [hClosing]
    intro hEq
    exact absurd (List.head_eq_of_cons_eq hEq) (by decide)
  · rw [hSemicolon]
    intro hEq
    exact absurd (List.head_eq_of_cons_eq hEq) (by decide)

/- A parenthesis closes a condition. -/
theorem closes_parenthesis
    (rest : List Char) :
    Closes (')' :: rest) :=
  ⟨')', rest, rfl, Or.inl rfl⟩

/- The name of a connective comes after a parenthesis. -/
theorem closes_joint
    (operator : Operator)
    (rest : List Char) :
    Closes
      ((") " ++ operator.text ++ " (").toList ++ rest) := by
  refine
    ⟨')',
      ' ' :: (operator.text.toList ++ " (".toList ++ rest),
      ?_, Or.inl rfl⟩
  simp

/- A comparison does not go on with a quote. -/
theorem head?_comparison_ne
    {d : Dialect}
    {quote : Char}
    (hLegible : d.Legible quote)
    (tail : List Char) :
    (" = ".toList ++ tail).head? ≠ some quote := by
  intro hFirst
  exact hLegible.ne_space (Option.some.inj hFirst).symm

namespace Expr

/-
  An operand can be read: whatever else begins with the same
  characters, and does not go on with a quote, is the same
  operand up to its arguments.
-/
def ReadableOperand
    (d : Dialect)
    (quote : Char)
    (e : Expr) :
    Prop :=
  ∀ (counter : UInt32) (other : Expr) (rest more : List Char),
    other.Flat →
      other.operator? ≠ some .eq →
        rest.head? ≠ some quote →
          more.head? ≠ some quote →
            e.chars d counter ++ rest =
                other.chars d counter ++ more →
              e.blank = other.blank ∧ rest = more

/-
  A condition can be read: whatever else begins with the
  same characters, and is closed, is the same condition up
  to its arguments.
-/
def ReadableCondition
    (d : Dialect)
    (e : Expr) :
    Prop :=
  ∀ (counter : UInt32) (other : Expr) (rest more : List Char),
    other.Flat →
      Closes rest →
        Closes more →
          e.chars d counter ++ rest =
              other.chars d counter ++ more →
            e.blank = other.blank ∧ rest = more

variable {d : Dialect}
variable {quote : Char}
variable {e left right : Expr}

/- Columns can be read. -/
theorem readableOperand_column
    (hLegible : d.Legible quote)
    (name : String) :
    (column name).ReadableOperand d quote := by
  intro counter other rest more hOther hRoot hRest hMore
    hEq
  have hKind :=
    (Flat.column name).kind_eq hOther hLegible
      (fun hColumn => nomatch hColumn) hRoot hEq
  cases hOther with
  | column otherName =>
      rw [chars_column, chars_column] at hEq
      rcases
          hLegible.quote_append_inj hRest hMore hEq with
        ⟨hName, hSame⟩
      exact ⟨congrArg column hName, hSame⟩
  | argument | negation | comparison | connective =>
      cases hKind

/- Arguments can be read, but for their contents. -/
theorem readableOperand_argument
    (hLegible : d.Legible quote)
    (value : Argument) :
    (argument value).ReadableOperand d quote := by
  intro counter other rest more hOther hRoot _ _ hEq
  have hKind :=
    (Flat.argument value).kind_eq hOther hLegible
      (fun hArgument => nomatch hArgument) hRoot hEq
  cases hOther with
  | argument otherValue =>
      rw [chars_argument, chars_argument] at hEq
      exact ⟨rfl, List.append_cancel_left hEq⟩
  | column | negation | comparison | connective =>
      cases hKind

/- Negations can be read up to the closing parenthesis. -/
theorem readableOperand_negation
    (hLegible : d.Legible quote)
    (hFlat : right.Flat)
    (hRight : right.ReadableCondition d) :
    (unary .not right).ReadableOperand d quote := by
  intro counter other rest more hOther hRoot _ _ hEq
  have hKind :=
    hFlat.negation.kind_eq hOther hLegible
      (fun hNot => nomatch hNot) hRoot hEq
  cases hOther with
  | negation hOtherRight =>
      rw [chars_negation, chars_negation] at hEq
      simp only [List.append_assoc, List.singleton_append]
        at hEq
      rcases
          hRight counter _ _ _ hOtherRight
            (closes_parenthesis rest)
            (closes_parenthesis more)
            (List.append_cancel_left hEq) with
        ⟨hBlank, hSame⟩
      exact
        ⟨congrArg (unary .not) hBlank,
          List.tail_eq_of_cons_eq hSame⟩
  | column | argument | comparison | connective =>
      cases hKind

/- The two connectives are told apart by their names. -/
theorem joint_append_inj
    {operator other : Operator}
    {rest more : List Char}
    (hOperator : operator = .and ∨ operator = .or)
    (hOther : other = .and ∨ other = .or)
    (hEq :
      (") " ++ operator.text ++ " (").toList ++ rest =
        (") " ++ other.text ++ " (").toList ++ more) :
    operator = other ∧ rest = more := by
  rcases hOperator with rfl | rfl
  · rcases hOther with rfl | rfl
    · exact ⟨rfl, List.append_cancel_left hEq⟩
    · simp [Operator.text] at hEq
  · rcases hOther with rfl | rfl
    · simp [Operator.text] at hEq
    · exact ⟨rfl, List.append_cancel_left hEq⟩

/-
  Connectives can be read: the parenthesis that closes the
  left operand leads to the name, and the name to the right
  operand.
-/
theorem readableOperand_connective
    {operator : Operator}
    (hLegible : d.Legible quote)
    (hOperator : operator = .and ∨ operator = .or)
    (hLeftFlat : left.Flat)
    (hRightFlat : right.Flat)
    (hLeft : left.ReadableCondition d)
    (hRight : right.ReadableCondition d) :
    (binary operator left right).ReadableOperand d
      quote := by
  intro counter other rest more hOther hRoot _ _ hEq
  have hOwnRoot :
      (binary operator left right).operator? ≠
        some .eq := by
    rcases hOperator with rfl | rfl
    · exact fun hAnd => nomatch hAnd
    · exact fun hOr => nomatch hOr
  have hKind :=
    (Flat.connective hOperator hLeftFlat
      hRightFlat).kind_eq hOther hLegible hOwnRoot hRoot hEq
  cases hOther with
  | connective hOtherOperator hOtherLeft hOtherRight =>
      rw [chars_connective d counter _ _ hOperator,
        chars_connective d counter _ _ hOtherOperator] at hEq
      simp only [List.cons_append, List.append_assoc,
        List.nil_append] at hEq
      rcases
          hLeft counter _ _ _ hOtherLeft
            (closes_joint operator _) (closes_joint _ _)
            (List.tail_eq_of_cons_eq hEq) with
        ⟨hLeftBlank, hJoint⟩
      rcases
          joint_append_inj hOperator hOtherOperator
            hJoint with
        ⟨hSameOperator, hAfter⟩
      rw [length_arguments_of_blank_eq hLeftBlank] at hAfter
      rcases
          hRight _ _ _ _ hOtherRight
            (closes_parenthesis rest)
            (closes_parenthesis more) hAfter with
        ⟨hRightBlank, hSame⟩
      refine ⟨?_, List.tail_eq_of_cons_eq hSame⟩
      rw [blank, blank, hSameOperator, hLeftBlank,
        hRightBlank]
  | comparison => exact absurd rfl hRoot
  | column | argument | negation => cases hKind

/- The other condition is a comparison, or an operand. -/
theorem Flat.eq_comparison_of_root
    (hFlat : e.Flat)
    (hRoot : e.operator? = some .eq) :
    ∃ left right,
      e = binary .eq left right ∧
        left.Flat ∧
        right.Flat ∧
        left.operator? ≠ some .eq ∧
        right.operator? ≠ some .eq := by
  cases hFlat with
  | comparison hLeft hRight hLeftRoot hRightRoot =>
      exact
        ⟨_, _, rfl, hLeft, hRight, hLeftRoot, hRightRoot⟩
  | connective hOperator =>
      have hEq := Option.some.inj hRoot
      subst hEq
      simp at hOperator
  | negation | column | argument => cases hRoot

/- An operand can be read as a condition. -/
theorem ReadableOperand.condition
    (hLegible : d.Legible quote)
    (hOperand : e.ReadableOperand d quote) :
    e.ReadableCondition d := by
  intro counter other rest more hOther hRest hMore hEq
  by_cases hRoot : other.operator? = some .eq
  · rcases hOther.eq_comparison_of_root hRoot with
      ⟨left, right, rfl, hLeft, hRight, hLeftRoot, _⟩
    rw [chars_comparison, List.append_assoc,
      List.append_assoc] at hEq
    have hBoth :=
      hOperand counter left rest _ hLeft hLeftRoot
        (hRest.head?_ne hLegible)
        (head?_comparison_ne hLegible _) hEq
    exact absurd hBoth.2 hRest.ne_comparison
  · exact
      hOperand counter other rest more hOther hRoot
        (hRest.head?_ne hLegible)
        (hMore.head?_ne hLegible) hEq

/- A comparison of readable operands can be read. -/
theorem readableCondition_comparison
    (hLegible : d.Legible quote)
    (hLeft : left.ReadableOperand d quote)
    (hRight : right.ReadableOperand d quote) :
    (binary .eq left right).ReadableCondition d := by
  intro counter other rest more hOther hRest hMore hEq
  have hSpace := head?_comparison_ne hLegible
  rw [chars_comparison, List.append_assoc,
    List.append_assoc] at hEq
  by_cases hRoot : other.operator? = some .eq
  · rcases hOther.eq_comparison_of_root hRoot with
      ⟨otherLeft, otherRight, rfl, hOtherLeft, hOtherRight,
        hLeftRoot, hRightRoot⟩
    rw [chars_comparison, List.append_assoc,
      List.append_assoc] at hEq
    rcases
        hLeft counter otherLeft _ _ hOtherLeft hLeftRoot
          (hSpace _) (hSpace _) hEq with
      ⟨hLeftBlank, hAfter⟩
    rw [length_arguments_of_blank_eq hLeftBlank] at hAfter
    rcases
        hRight _ otherRight rest more hOtherRight hRightRoot
          (hRest.head?_ne hLegible)
          (hMore.head?_ne hLegible)
          (List.append_cancel_left hAfter) with
      ⟨hRightBlank, hSame⟩
    refine ⟨?_, hSame⟩
    rw [blank, blank, hLeftBlank, hRightBlank]
  · have hBoth :=
      hLeft counter other _ more hOther hRoot (hSpace _)
        (hMore.head?_ne hLegible) hEq
    exact absurd hBoth.2.symm hMore.ne_comparison

/-
  Every flat expression can be read as a condition, and as
  an operand unless it is a comparison.
-/
theorem Flat.readable
    (hLegible : d.Legible quote)
    (hFlat : e.Flat) :
    (e.operator? ≠ some .eq → e.ReadableOperand d quote) ∧
      e.ReadableCondition d := by
  induction hFlat with
  | column name =>
      have hOperand := readableOperand_column hLegible name
      exact ⟨fun _ => hOperand, hOperand.condition hLegible⟩
  | argument value =>
      have hOperand :=
        readableOperand_argument hLegible value
      exact ⟨fun _ => hOperand, hOperand.condition hLegible⟩
  | negation hRight ih =>
      have hOperand :=
        readableOperand_negation hLegible hRight ih.2
      exact ⟨fun _ => hOperand, hOperand.condition hLegible⟩
  | comparison _ _ hLeftRoot hRightRoot leftIH rightIH =>
      refine ⟨fun hRoot => absurd rfl hRoot, ?_⟩
      exact
        readableCondition_comparison hLegible
          (leftIH.1 hLeftRoot) (rightIH.1 hRightRoot)
  | connective hOperator hLeft hRight leftIH rightIH =>
      have hOperand :=
        readableOperand_connective hLegible hOperator hLeft
          hRight leftIH.2 rightIH.2
      exact ⟨fun _ => hOperand, hOperand.condition hLegible⟩

end Expr

end RecordQuery

------------------------------------------------------------
-- Statements
------------------------------------------------------------

namespace RecordQuery

namespace Select

/- The characters of a condition over columns, if any. -/
def conditionChars
    (d : Dialect) :
    Option Expr → List Char
| none => []
| some tree => " WHERE ".toList ++ tree.chars d 0

/- The marks of a statement without a condition. -/
theorem marks_emission_none
    (m : Mapping) :
    (emission m ⟨none, none⟩).marks =
      [.fixed "SELECT * FROM "] ++
        ([.identifier m.table] ++ [.fixed ";"]) :=
  rfl

/- The marks of a statement whose condition has no fault. -/
theorem marks_emission_some
    (m : Mapping)
    {e : Expr}
    (hFault : (e.emission m).fault = none) :
    (emission m ⟨none, some e⟩).marks =
      [.fixed "SELECT * FROM "] ++
        ([.identifier m.table] ++
          (([.fixed " WHERE "] ++ (e.emission m).marks) ++
            [.fixed ";"])) := by
  have hCondition :
      Emission.fixed " WHERE " ++ e.emission m ++
          .fixed ";" =
        ⟨.fixed " WHERE " ::
            ((e.emission m).marks ++ [.fixed ";"]),
          none⟩ :=
    Emission.append_of_fault_eq_none _ hFault
  unfold emission
  change
    (Emission.fixed "SELECT * FROM " ++
        (.ofMark (.identifier m.table) ++
          (.fixed " WHERE " ++ e.emission m ++
            .fixed ";"))).marks =
      _
  rw [hCondition]
  rfl

/-
  A statement that is rendered without a fault consists of
  the quoted table and of a condition over columns, whose
  arguments it binds.
-/
theorem exists_chars
    (d : Dialect)
    (m : Mapping)
    (condition : Option Expr)
    (hFlat : ∀ e ∈ condition, e.FlatComparisons)
    (hFault :
      (emission m ⟨none, condition⟩).fault = none) :
    ∃ tree : Option Expr,
      Option.Rel (Expr.RendersAs m) condition tree ∧
        Mark.chars d 0 (emission m ⟨none, condition⟩).marks =
          "SELECT * FROM ".toList ++
            ((d.quote m.table).toList ++
              (conditionChars d tree ++ [';'])) ∧
        arguments ⟨none, condition⟩ =
          arguments ⟨none, tree⟩ := by
  have hTable (counter : UInt32) :
      Mark.chars d counter [.identifier m.table] =
        (d.quote m.table).toList :=
    Expr.chars_column d counter m.table
  cases condition with
  | none =>
      refine ⟨none, .none, ?_, rfl⟩
      rw [marks_emission_none m]
      simp only [Mark.chars_append, Mark.chars_fixed,
        hTable]
      rfl
  | some e =>
      have hEmission : (e.emission m).fault = none := by
        unfold emission tableEmission conditionEmission
          at hFault
        simp only [Emission.fault_append_eq_none_iff]
          at hFault
        exact hFault.2.2.1.2
      rcases e.exists_rendersAs m (hFlat e rfl) hEmission with
        ⟨tree, hTree⟩
      refine ⟨some tree, .some hTree, ?_, ?_⟩
      · rw [marks_emission_some m hEmission, hTree.marks]
        simp only [Mark.chars_append, Mark.chars_fixed,
          hTable]
        rfl
      · exact
          (Expr.arguments_of_withColumns?
            hTree.columns).symm

/- A condition can be read up to the end of the statement. -/
theorem map_blank_eq_of_conditionChars_eq
    {d : Dialect}
    {quote : Char}
    {tree other : Option Expr}
    (hLegible : d.Legible quote)
    (hTree : ∀ e ∈ tree, e.Flat)
    (hOther : ∀ e ∈ other, e.Flat)
    (hEq :
      conditionChars d tree ++ [';'] =
        conditionChars d other ++ [';']) :
    tree.map Expr.blank = other.map Expr.blank := by
  have hEnd : Closes [';'] := ⟨';', [], rfl, Or.inr rfl⟩
  cases tree with
  | none =>
      cases other with
      | none => rfl
      | some other =>
          have hFirst := List.head_eq_of_cons_eq hEq
          exact absurd hFirst (by decide)
  | some tree =>
      cases other with
      | none =>
          have hFirst := List.head_eq_of_cons_eq hEq
          exact absurd hFirst (by decide)
      | some other =>
          unfold conditionChars at hEq
          simp only [List.append_assoc] at hEq
          have hReadable :=
            ((hTree tree rfl).readable hLegible).2
          have hBoth :=
            hReadable 0 other _ _ (hOther other rfl) hEnd
              hEnd (List.append_cancel_left hEq)
          exact congrArg some hBoth.1

/- The blank condition and its arguments determine it. -/
theorem eq_of_map_blank_eq
    {tree other : Option Expr}
    (hBlank :
      tree.map Expr.blank = other.map Expr.blank)
    (hArguments :
      arguments ⟨none, tree⟩ = arguments ⟨none, other⟩) :
    tree = other := by
  cases tree with
  | none =>
      cases other with
      | none => rfl
      | some other => cases hBlank
  | some tree =>
      cases other with
      | none => cases hBlank
      | some other =>
          exact
            congrArg some
              (Expr.eq_of_blank_eq (Option.some.inj hBlank)
                hArguments)

/- After the table comes no quote. -/
theorem head?_conditionChars_ne
    {d : Dialect}
    {quote : Char}
    (hLegible : d.Legible quote)
    (tree : Option Expr) :
    (conditionChars d tree ++ [';']).head? ≠
      some quote := by
  intro hFirst
  cases tree with
  | none =>
      exact
        hLegible.ne_semicolon (Option.some.inj hFirst).symm
  | some tree =>
      exact hLegible.ne_space (Option.some.inj hFirst).symm

/- A fresh draft ends up with the characters of the marks. -/
theorem toList_text_extend_empty
    (d : Dialect)
    (marks : List Mark) :
    (Draft.empty.extend d marks).text.toList =
      Mark.chars d 0 marks := by
  simp [Draft.extend, Draft.empty, Mark.chars]

/- Trees of rendered conditions are flat. -/
theorem flat_of_rendersAs
    {m : Mapping}
    {condition tree : Option Expr}
    (hTree :
      Option.Rel (Expr.RendersAs m) condition tree) :
    ∀ e ∈ tree, e.Flat := by
  intro e hMem
  cases hTree with
  | none => cases hMem
  | some hRenders =>
      have hEq := Option.some.inj hMem
      subst hEq
      exact hRenders.flat

/-
  In a legible dialect, statements with the same text and
  the same arguments have the same table and the same
  condition over columns.
-/
theorem same_table_and_tree
    {d : Dialect}
    {quote : Char}
    (hLegible : d.Legible quote)
    {m n : Mapping}
    {first second : Option Expr}
    (hFirst : ∀ e ∈ first, e.FlatComparisons)
    (hSecond : ∀ e ∈ second, e.FlatComparisons)
    (hFirstFault :
      (emission m ⟨none, first⟩).fault = none)
    (hSecondFault :
      (emission n ⟨none, second⟩).fault = none)
    (hText :
      Mark.chars d 0 (emission m ⟨none, first⟩).marks =
        Mark.chars d 0 (emission n ⟨none, second⟩).marks)
    (hArgs :
      Mark.arguments (emission m ⟨none, first⟩).marks =
        Mark.arguments
          (emission n ⟨none, second⟩).marks) :
    m.table = n.table ∧
      ∃ tree : Option Expr,
        Option.Rel (Expr.RendersAs m) first tree ∧
          Option.Rel (Expr.RendersAs n) second tree := by
  rcases exists_chars d m first hFirst hFirstFault with
    ⟨tree, hTree, hChars, hArguments⟩
  rcases exists_chars d n second hSecond hSecondFault with
    ⟨other, hOther, hOtherChars, hOtherArguments⟩
  rw [hChars, hOtherChars] at hText
  rcases
      hLegible.quote_append_inj
        (head?_conditionChars_ne hLegible tree)
        (head?_conditionChars_ne hLegible other)
        (List.append_cancel_left hText) with
    ⟨hTable, hConditions⟩
  have hBlank :=
    map_blank_eq_of_conditionChars_eq hLegible
      (flat_of_rendersAs hTree) (flat_of_rendersAs hOther)
      hConditions
  rw [(binds_emission m ⟨none, first⟩).complete hFirstFault,
    (binds_emission n ⟨none, second⟩).complete hSecondFault,
    hArguments, hOtherArguments] at hArgs
  have hSame := eq_of_map_blank_eq hBlank hArgs
  subst hSame
  exact ⟨hTable, tree, hTree, hOther⟩

/-
  Statements are unambiguous in both named dialects.  If two
  conditions, under two mappings, are rendered to the same
  text with the same arguments, then the tables are the same
  and so are the conditions, once their fields have been
  replaced by columns.  This is so for all conditions whose
  comparisons are flat, as those of built ones are.
-/
theorem same_statement_same_selection :
    (∀ p : Predicate,
        p.Built → p.expr.FlatComparisons) ∧
      ∀ (d : Dialect) (m n : Mapping)
          (first second : Option Expr)
          (one other : Draft),
        d = .generic ∨ d = .postgres →
        (∀ e ∈ first, e.FlatComparisons) →
        (∀ e ∈ second, e.FlatComparisons) →
        Fragment.progress d m .empty
            (.select ⟨none, first⟩) =
          ⟨none, one⟩ →
        Fragment.progress d n .empty
            (.select ⟨none, second⟩) =
          ⟨none, other⟩ →
        one.text = other.text →
        one.args = other.args →
        m.table = n.table ∧
          Option.Rel
            (fun e e' =>
              ∃ tree,
                e.withColumns? m = some tree ∧
                  e'.withColumns? n = some tree)
            first second := by
  refine ⟨fun p hBuilt => hBuilt.flatComparisons, ?_⟩
  intro d m n first second one other hDialect hFirst hSecond
    hOne hOther hText hArgs
  rcases Dialect.exists_legible hDialect with ⟨quote, hLegible⟩
  rw [Fragment.progress_eq d _ .empty (by simp)]
    at hOne hOther
  injection hOne with hFirstFault hOneDraft
  injection hOther with hSecondFault hOtherDraft
  subst hOneDraft hOtherDraft
  have hChars := congrArg String.toList hText
  rw [toList_text_extend_empty,
    toList_text_extend_empty] at hChars
  rcases
      same_table_and_tree hLegible hFirst hSecond
        hFirstFault hSecondFault hChars hArgs with
    ⟨hTable, tree, hTree, hOtherTree⟩
  refine ⟨hTable, ?_⟩
  cases hTree with
  | none =>
      cases hOtherTree with
      | none => exact .none
  | some hRenders =>
      cases hOtherTree with
      | some hOtherRenders =>
          exact
            .some
              ⟨_, hRenders.columns, hOtherRenders.columns⟩

/- Two fields of one column whose name has quotes in it. -/
theorem same_statement_same_selection_of_quotes :
    let column := "c\" = $1) AND (\"d"
    let m := Mapping.ofFields "p\"; --" [("age", column)]
    let n := Mapping.ofFields "p\"; --" [("years", column)]
    let value : Argument := .scalar (.varchar "' OR 1")
    let condition (field : String) : Expr :=
      .unary .not
        (.binary .eq (.column field) (.argument value))
    let statement : Draft :=
      ⟨"SELECT * FROM \"p\"\"; --\" WHERE  NOT (" ++
          "\"c\"\" = $1) AND (\"\"d\" = $1);",
        1, [value]⟩
    (condition "age").FlatComparisons ∧
      (condition "years").FlatComparisons ∧
      Fragment.progress .postgres m .empty
          (.select ⟨none, some (condition "age")⟩) =
        ⟨none, statement⟩ ∧
      Fragment.progress .postgres n .empty
          (.select ⟨none, some (condition "years")⟩) =
        ⟨none, statement⟩ ∧
      m.table = n.table ∧
      Option.Rel
        (fun e e' =>
          ∃ tree,
            e.withColumns? m = some tree ∧
              e'.withColumns? n = some tree)
        (some (condition "age"))
        (some (condition "years")) := by
  intro column m n value condition statement
  have hFlat (field : String) :
      (condition field).FlatComparisons := by
    simp [condition, Expr.FlatComparisons, Expr.operator?]
  have hOne :
      Fragment.progress .postgres m .empty
          (.select ⟨none, some (condition "age")⟩) =
        ⟨none, statement⟩ := by
    decide
  have hOther :
      Fragment.progress .postgres n .empty
          (.select ⟨none, some (condition "years")⟩) =
        ⟨none, statement⟩ := by
    decide
  have hSame :=
    same_statement_same_selection.2 .postgres m n
      (some (condition "age")) (some (condition "years"))
      statement statement (Or.inr rfl)
      (by simpa using hFlat "age")
      (by simpa using hFlat "years")
      hOne hOther rfl rfl
  exact
    ⟨hFlat "age", hFlat "years", hOne, hOther, hSame.1,
      hSame.2⟩

/-
  Comparisons that are not flat can be ambiguous: it is not
  seen which of the two is the operand.
-/
example :
    let m := Mapping.ofFields "t" [("a", "a")]
    let a : Expr := .column "a"
    Fragment.progress .generic m .empty
        (.expr (.binary .eq (.binary .eq a a) a)) =
      Fragment.progress .generic m .empty
        (.expr (.binary .eq a (.binary .eq a a))) := by
  decide

end Select

end RecordQuery
