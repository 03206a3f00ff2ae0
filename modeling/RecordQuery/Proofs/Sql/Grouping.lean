import RecordQuery.Proofs.Filter.Fields
import RecordQuery.Proofs.Sql.Region
import RecordQuery.Proofs.Sql.Unambiguity

/-
  Built filters keep their grouping when they are rendered.

  Key definitions include:
    * `RecordQuery.Expr.regions`
    * `RecordQuery.Expr.Grouped`
    * `RecordQuery.Dialect.Neutral`
    * `RecordQuery.Expr.Groups`

  Key theorems include:
    * `RecordQuery.Expr.Grouped.exists_groups`
    * `RecordQuery.Predicate.text_keeps_grouping`

  Every operator of a built filter has a region of its own
  in the text, so that no rule about which operator binds
  more tightly has anything to decide.  What is read from a
  quoted identifier or a placeholder is no sign at all.
-/

------------------------------------------------------------
-- Regions Of Expressions
------------------------------------------------------------

namespace RecordQuery

namespace Expr

/-
  The regions that an expression should have: one for every
  node with an operator, in that of the node above it.
-/
def regions : Expr → List Region
| .column _ => []
| .argument _ => []
| .unary operator right => [⟨[operator], right.regions⟩]
| .binary operator left right =>
    [⟨[operator], left.regions ++ right.regions⟩]

/-
  Comparisons of operands without operators, put together
  by `NOT`, `AND` and `OR`.
-/
inductive Grouped : Expr → Prop where
  | comparison
      {left right : Expr}
      (hLeft : left.operator? = none)
      (hRight : right.operator? = none) :
      Grouped (.binary .eq left right)
  | negation
      {right : Expr}
      (hRight : Grouped right) :
      Grouped (.unary .not right)
  | connective
      {operator : Operator}
      {left right : Expr}
      (hOperator : operator = .and ∨ operator = .or)
      (hLeft : Grouped left)
      (hRight : Grouped right) :
      Grouped (.binary operator left right)

/- An operand without an operator has no region. -/
theorem regions_of_operator?_eq_none
    {e : Expr}
    (hRoot : e.operator? = none) :
    e.regions = [] := by
  cases e with
  | column field => rfl
  | argument value => rfl
  | unary operator right => cases hRoot
  | binary operator left right => cases hRoot

end Expr

/- Built predicates are grouped. -/
theorem Predicate.Built.grouped
    {p : Predicate}
    (hBuilt : p.Built) :
    p.expr.Grouped := by
  induction hBuilt with
  | eq field value => exact .comparison rfl rfl
  | not hOperand ih => exact .negation ih
  | and hLeft hRight leftIH rightIH =>
      exact .connective (Or.inl rfl) leftIH rightIH
  | or hLeft hRight leftIH rightIH =>
      exact .connective (Or.inr rfl) leftIH rightIH

end RecordQuery

------------------------------------------------------------
-- Columns In Place Of Fields
------------------------------------------------------------

namespace RecordQuery

namespace Expr

variable {m : Mapping}
variable {e tree : Expr}

/- Columns in place of fields leave the grouping alone. -/
theorem Grouped.withColumns?
    (hGrouped : e.Grouped)
    (hColumns : e.withColumns? m = some tree) :
    tree.Grouped ∧ tree.regions = e.regions := by
  induction hGrouped generalizing tree with
  | comparison hLeft hRight =>
      rcases exists_operands_of_withColumns? hColumns with
        ⟨first, second, hFirst, hSecond, rfl⟩
      have hFirstRoot :=
        (operator?_of_withColumns? hFirst).trans hLeft
      have hSecondRoot :=
        (operator?_of_withColumns? hSecond).trans hRight
      refine ⟨.comparison hFirstRoot hSecondRoot, ?_⟩
      rw [regions, regions,
        regions_of_operator?_eq_none hFirstRoot,
        regions_of_operator?_eq_none hSecondRoot,
        regions_of_operator?_eq_none hLeft,
        regions_of_operator?_eq_none hRight]
  | negation hRight ih =>
      rcases Option.map_eq_some_iff.mp hColumns with
        ⟨inner, hInner, rfl⟩
      rcases ih hInner with ⟨hInnerGrouped, hRegions⟩
      refine ⟨.negation hInnerGrouped, ?_⟩
      rw [regions, regions, hRegions]
  | connective hOperator _ _ leftIH rightIH =>
      rcases exists_operands_of_withColumns? hColumns with
        ⟨first, second, hFirst, hSecond, rfl⟩
      rcases leftIH hFirst with
        ⟨hFirstGrouped, hFirstRegions⟩
      rcases rightIH hSecond with
        ⟨hSecondGrouped, hSecondRegions⟩
      refine
        ⟨.connective hOperator hFirstGrouped hSecondGrouped,
          ?_⟩
      rw [regions, regions, hFirstRegions, hSecondRegions]

end Expr

end RecordQuery

------------------------------------------------------------
-- Neutral Dialects
------------------------------------------------------------

namespace RecordQuery

/- Digits have no upper case. -/
theorem Text.toUpper_of_isDigit
    {c : Char}
    (hDigit : c.isDigit = true) :
    c.toUpper = c := by
  simp only [Char.isDigit, Bool.and_eq_true,
    decide_eq_true_eq, ge_iff_le,
    UInt32.le_iff_toNat_le] at hDigit
  have hLast : c.val.toNat ≤ 57 := hDigit.2
  apply dif_neg
  rintro ⟨hLower, _⟩
  have hFirst : 97 ≤ c.val.toNat :=
    UInt32.le_iff_toNat_le.mp hLower
  omega

/- A word of digits is no operator. -/
theorem Operator.ofWord?_of_isDigit
    {word : List Char}
    (hDigits : ∀ c ∈ word, c.isDigit = true) :
    ofWord? word = none := by
  have hUpper : word.map Char.toUpper = word := by
    rw [List.map_congr_left, List.map_id]
    intro c hMem
    exact Text.toUpper_of_isDigit (hDigits c hMem)
  rw [ofWord?, List.find?_eq_none]
  intro operator _ hWord
  rw [hUpper, beq_iff_eq] at hWord
  subst hWord
  -- No operator is spelled with digits only.
  have hSpelling :
      operator.text.toList.all Char.isDigit = true :=
    List.all_eq_true.mpr hDigits
  cases operator <;> exact absurd hSpelling (by decide)

namespace Dialect

/-
  A legible dialect whose quotes and placeholders are no
  signs and hide none.
-/
structure Neutral
    (d : Dialect)
    (quote : Char) :
    Prop extends Legible d quote where
  isWord_quote : Text.isWord quote = false
  sign_quote : Sign.ofChar? quote = none
  signs_placeholder :
    ∀ number rest, Sign.Separated rest →
      Sign.ofText quote
          ((d.placeholder number).toList ++ rest) =
        Sign.ofText quote rest

end Dialect

namespace Sign

/- A character that is neither sign nor word is skipped. -/
theorem read_cons
    {c : Char}
    (rest : List Char)
    (hWord : Text.isWord c = false)
    (hSign : ofChar? c = none) :
    read [] (c :: rest) = read [] rest := by
  rw [read, hWord, hSign]
  rfl

/- What begins with no word is separated. -/
theorem separated_cons
    {c : Char}
    (rest : List Char)
    (hWord : Text.isWord c = false) :
    Separated (c :: rest) := by
  intro first hFirst
  cases hFirst
  exact hWord

/- What is separated stays so outside of identifiers. -/
theorem Separated.unquoted
    {rest : List Char}
    (quote : Char)
    (hRest : Separated rest) :
    Separated (Text.unquoted quote false rest) := by
  intro c hHead
  rw [Text.head?_unquoted] at hHead
  exact hRest c hHead

end Sign

namespace Dialect

/- Backquotes and question marks are no signs. -/
theorem neutral_generic :
    generic.Neutral '\x60' := by
  refine ⟨legible_generic, by decide, by decide, ?_⟩
  intro number rest _
  have hPlaceholder :
      (generic.placeholder number).toList = ['?'] := by
    simp [generic, Delimiters.dialect]
  rw [hPlaceholder, Sign.ofText,
    Text.unquoted_append rest (by decide)]
  exact Sign.read_cons _ (by decide) (by decide)

/- Double quotes and dollar numbers are no signs. -/
theorem neutral_postgres :
    postgres.Neutral '\"' := by
  refine ⟨legible_postgres, by decide, by decide, ?_⟩
  intro number rest hRest
  have hPlaceholder :
      (postgres.placeholder number).toList =
        '$' :: Nat.toDigits 10 number.toNat := by
    simp [postgres, Delimiters.dialect, Text.natural]
  have hDigits :
      ∀ c ∈ Nat.toDigits 10 number.toNat, c.isDigit = true := by
    intro c hMem
    exact
      Nat.isDigit_of_mem_toDigits (by decide) (by decide)
        hMem
  have hWord :
      ∀ c ∈ Nat.toDigits 10 number.toNat,
        Text.isWord c = true := by
    intro c hMem
    simp [Text.isWord, Char.isAlphanum, hDigits c hMem]
  have hQuote : '\"' ∉ '$' :: Nat.toDigits 10 number.toNat := by
    intro hMem
    rcases List.mem_cons.mp hMem with hEq | hMem
    · exact absurd hEq (by decide)
    · exact absurd (hDigits _ hMem) (by decide)
  rw [hPlaceholder, Sign.ofText,
    Text.unquoted_append rest hQuote, List.cons_append,
    Sign.read_cons _ (by decide) (by decide),
    Sign.read_append _ _ hWord,
    Sign.read_of_separated _ (hRest.unquoted _),
    Sign.ofWord, List.nil_append,
    Operator.ofWord?_of_isDigit hDigits]
  rfl

variable {d : Dialect}
variable {quote : Char}

/- A quoted identifier has no signs. -/
theorem Neutral.signs_quote
    (hNeutral : d.Neutral quote)
    (name : String)
    (rest : List Char) :
    Sign.ofText quote ((d.quote name).toList ++ rest) =
      Sign.ofText quote rest := by
  have hSkip (more : List Char) :=
    Sign.read_cons more hNeutral.isWord_quote
      hNeutral.sign_quote
  have hInside (text : List Char) :
      Sign.read []
          (Text.unquoted quote true
            (Text.doubled quote text ++ quote :: rest)) =
        Sign.read [] (Text.unquoted quote false rest) := by
    induction text with
    | nil => simp [Text.doubled, Text.unquoted, hSkip]
    | cons c text ih =>
        by_cases hHead : c = quote
        · subst hHead
          rw [Text.doubled_cons_self]
          simp [Text.unquoted, hSkip, ih]
        · rw [Text.doubled_cons_of_ne text hHead]
          simp [Text.unquoted, hHead, ih]
  rw [hNeutral.toList_quote, Sign.ofText, List.cons_append,
    List.append_assoc, Text.unquoted, if_pos rfl, hSkip]
  exact hInside name.toList

end Dialect

end RecordQuery

------------------------------------------------------------
-- Reading Grouped Expressions
------------------------------------------------------------

namespace RecordQuery

namespace Dialect

variable {d : Dialect}
variable {quote : Char}

/-
  The parts of fixed texts: spaces, signs, and the letters
  of words.
-/
def isPlain
    (c : Char) :
    Bool :=
  c == ' ' || Text.isWord c || (Sign.ofChar? c).isSome

/- A fixed text has the same signs wherever it stands. -/
theorem Neutral.signs_fixed
    (hNeutral : d.Neutral quote)
    (text rest : List Char)
    (hText : text.all isPlain = true) :
    Sign.ofText quote (text ++ rest) =
      Sign.read []
        (text ++ Text.unquoted quote false rest) := by
  rw [Sign.ofText, Text.unquoted_append]
  intro hMem
  have hPlain := List.all_eq_true.mp hText quote hMem
  simp [isPlain, hNeutral.isWord_quote,
    hNeutral.sign_quote, hNeutral.ne_space] at hPlain

/- An opening parenthesis is a sign. -/
theorem Neutral.signs_opening
    (hNeutral : d.Neutral quote)
    (rest : List Char) :
    Sign.ofText quote ('(' :: rest) =
      .opening :: Sign.ofText quote rest :=
  hNeutral.signs_fixed ['('] rest (by decide)

/- A closing parenthesis is a sign. -/
theorem Neutral.signs_closing
    (hNeutral : d.Neutral quote)
    (rest : List Char) :
    Sign.ofText quote (')' :: rest) =
      .closing :: Sign.ofText quote rest :=
  hNeutral.signs_fixed [')'] rest (by decide)

/- The sign of comparisons is an operator. -/
theorem Neutral.signs_comparison
    (hNeutral : d.Neutral quote)
    (rest : List Char) :
    Sign.ofText quote (" = ".toList ++ rest) =
      .operator .eq :: Sign.ofText quote rest := by
  rw [hNeutral.signs_fixed _ rest (by decide)]
  rfl

/- The word before a parenthesis is an operator. -/
theorem Neutral.signs_operator
    (hNeutral : d.Neutral quote)
    {operator : Operator}
    (rest : List Char)
    (hOperator : operator ≠ .eq) :
    Sign.ofText quote
        ((" " ++ operator.text ++ " (").toList ++ rest) =
      .operator operator ::
        .opening :: Sign.ofText quote rest := by
  cases operator with
  | eq => exact absurd rfl hOperator
  | not | and | or =>
      rw [hNeutral.signs_fixed _ rest (by decide)]
      rfl

end Dialect

namespace Expr

variable {d : Dialect}
variable {quote : Char}
variable {e left right : Expr}
variable {region leftRegion rightRegion : Region}

/-
  An expression fills a region of its own, whatever stands
  around it.
-/
structure Groups
    (d : Dialect)
    (quote : Char)
    (e : Expr)
    (region : Region) :
    Prop where
  regions : e.regions = [region]
  nest :
    ∀ counter rest current outer, Sign.Separated rest →
      Region.nest
          (Sign.ofText quote (e.chars d counter ++ rest))
          current outer =
        Region.nest (Sign.ofText quote rest)
          (current ++ region) outer

/- An operand without an operator has no signs. -/
theorem signs_operand
    (hNeutral : d.Neutral quote)
    (hRoot : e.operator? = none)
    (counter : UInt32)
    {rest : List Char}
    (hRest : Sign.Separated rest) :
    Sign.ofText quote (e.chars d counter ++ rest) =
      Sign.ofText quote rest := by
  cases e with
  | column name =>
      rw [chars_column]
      exact hNeutral.signs_quote name rest
  | argument value =>
      rw [chars_argument]
      exact hNeutral.signs_placeholder _ rest hRest
  | unary operator right => cases hRoot
  | binary operator left right => cases hRoot

/- In parentheses it is one more inner region. -/
theorem Groups.nest_parentheses
    (hNeutral : d.Neutral quote)
    (hGroups : e.Groups d quote region)
    (counter : UInt32)
    (rest : List Char)
    (current : Region)
    (outer : List Region) :
    Region.nest
        (.opening ::
          Sign.ofText quote
            (e.chars d counter ++ ')' :: rest))
        current outer =
      Region.nest (Sign.ofText quote rest)
        (current ++ ⟨[], [region]⟩) outer := by
  rw [Region.nest,
    hGroups.nest _ _ _ _
      (Sign.separated_cons rest (by decide)),
    hNeutral.signs_closing, Region.empty_append]
  rfl

/- A comparison fills a region without inner ones. -/
theorem groups_comparison
    (hNeutral : d.Neutral quote)
    (hLeft : left.operator? = none)
    (hRight : right.operator? = none) :
    (binary .eq left right).Groups d quote
      ⟨[.eq], []⟩ := by
  constructor
  · rw [regions, regions_of_operator?_eq_none hLeft,
      regions_of_operator?_eq_none hRight]
    rfl
  · intro counter rest current outer hRest
    have hSpace (more : List Char) :
        Sign.Separated (" = ".toList ++ more) :=
      Sign.separated_cons _ (by decide)
    rw [chars_comparison]
    simp only [List.append_assoc]
    rw [signs_operand hNeutral hLeft counter (hSpace _),
      hNeutral.signs_comparison,
      signs_operand hNeutral hRight _ hRest]
    rfl

/- A negation fills a region with one inner one. -/
theorem Groups.negation
    (hNeutral : d.Neutral quote)
    (hRight : right.Groups d quote region) :
    (unary .not right).Groups d quote
      ⟨[.not], [region]⟩ := by
  constructor
  · rw [Expr.regions, hRight.regions]
  · intro counter rest current outer _
    have hText :
        " NOT (".toList =
          (" " ++ Operator.not.text ++ " (").toList :=
      rfl
    rw [chars_negation, hText]
    simp only [List.append_assoc, List.singleton_append]
    rw [hNeutral.signs_operator _ (by decide), Region.nest,
      hRight.nest_parentheses hNeutral, Region.append_assoc]
    rfl

/- A connective fills a region with two inner ones. -/
theorem Groups.connective
    {operator : Operator}
    (hNeutral : d.Neutral quote)
    (hOperator : operator = .and ∨ operator = .or)
    (hLeft : left.Groups d quote leftRegion)
    (hRight : right.Groups d quote rightRegion) :
    (binary operator left right).Groups d quote
      ⟨[operator], [leftRegion, rightRegion]⟩ := by
  constructor
  · rw [Expr.regions, hLeft.regions, hRight.regions]
    rfl
  · intro counter rest current outer _
    have hEq : operator ≠ .eq := by
      rintro rfl
      simp at hOperator
    have hJoint :
        (") " ++ operator.text ++ " (").toList =
          ')' :: (" " ++ operator.text ++ " (").toList := by
      simp
    rw [chars_connective d counter left right hOperator,
      hJoint]
    simp only [List.cons_append, List.append_assoc,
      List.nil_append]
    rw [hNeutral.signs_opening,
      hLeft.nest_parentheses hNeutral,
      hNeutral.signs_operator _ hEq, Region.nest,
      hRight.nest_parentheses hNeutral,
      Region.append_assoc, Region.append_assoc]
    rfl

/- Every grouped expression fills a region of its own. -/
theorem Grouped.exists_groups
    (hGrouped : e.Grouped)
    (hNeutral : d.Neutral quote) :
    ∃ region, e.Groups d quote region := by
  induction hGrouped with
  | comparison hLeft hRight =>
      exact ⟨_, groups_comparison hNeutral hLeft hRight⟩
  | negation _ ih =>
      rcases ih with ⟨region, hRight⟩
      exact ⟨_, hRight.negation hNeutral⟩
  | connective hOperator _ _ leftIH rightIH =>
      rcases leftIH with ⟨leftRegion, hLeft⟩
      rcases rightIH with ⟨rightRegion, hRight⟩
      exact ⟨_, hLeft.connective hNeutral hOperator hRight⟩

/- The whole text of a grouped expression is its region. -/
theorem Groups.ofText?_eq
    (hGroups : e.Groups d quote region)
    (counter : UInt32) :
    Region.ofText? quote (e.chars d counter) =
      some region := by
  have hEnd : Sign.Separated [] := by
    intro c hHead
    cases hHead
  have hNest :=
    hGroups.nest counter [] .empty [] hEnd
  rw [List.append_nil, Region.empty_append] at hNest
  exact hNest

end Expr

end RecordQuery

------------------------------------------------------------
-- Rendering Keeps The Grouping
------------------------------------------------------------

namespace RecordQuery

namespace Predicate

/-
  The text of a built predicate, whatever its columns are
  called, has balanced parentheses, and its regions are
  those of the predicate: each has one operator, and they
  are nested like the predicate itself.
-/
theorem text_keeps_grouping
    {d : Dialect}
    {quote : Char}
    {p : Predicate}
    (m : Mapping)
    (draft : Draft)
    (hDialect :
      d = .generic ∧ quote = '\x60' ∨
        d = .postgres ∧ quote = '\"')
    (hBuilt : p.Built)
    (hFields :
      ∀ field ∈ p.expr.fields,
        (m.column? field).isSome = true) :
    let result :=
      Fragment.progress d m draft (.expr p.expr)
    ∃ text region,
      result.fault = none ∧
        result.draft.text = draft.text ++ text ∧
        Text.Balanced
          (Text.unquoted quote false text.toList) ∧
        Region.ofText? quote text.toList = some region ∧
        p.expr.regions = [region] := by
  intro result
  have hNeutral : d.Neutral quote := by
    rcases hDialect with ⟨rfl, rfl⟩ | ⟨rfl, rfl⟩
    · exact Dialect.neutral_generic
    · exact Dialect.neutral_postgres
  have hFault : (p.expr.emission m).fault = none :=
    (hBuilt.flat.completes hFields).fault
  rcases
      p.expr.exists_rendersAs m hBuilt.flatComparisons
        hFault with
    ⟨tree, hTree⟩
  rcases hBuilt.grouped.withColumns? hTree.columns with
    ⟨hGrouped, hRegions⟩
  rcases hGrouped.exists_groups hNeutral with
    ⟨region, hGroups⟩
  have hText := hGroups.ofText?_eq draft.counter
  have hResult :
      result = (p.expr.emission m).progress d draft :=
    Fragment.progress_eq d m draft (by simp)
  refine
    ⟨Lexeme.texts d
        (Mark.number draft.counter tree.wording),
      region, ?_, ?_, ?_, hText, ?_⟩
  · rw [hResult]
    exact hFault
  · rw [hResult, ← hTree.marks]
    rfl
  · exact Region.balanced_of_ofText? hText
  · rw [← hRegions]
    exact hGroups.regions

/- Signs in the names of columns group nothing. -/
theorem text_keeps_grouping_of_signs_in_columns :
    let m :=
      Mapping.ofFields "people"
        [("age", "a\") OR (\"b"), ("name", "NOT (= \"")]
    let p := (eq "age" true).and (eq "name" false).not
    let result :=
      Fragment.progress .postgres m .empty (.expr p.expr)
    result.draft.text =
        "(\"a\"\") OR (\"\"b\" = $1) AND " ++
          "( NOT (\"NOT (= \"\"\" = $2))" ∧
      Region.ofText? '\"' result.draft.text.toList =
        some
          ⟨[.and],
            [⟨[.eq], []⟩, ⟨[.not], [⟨[.eq], []⟩]⟩]⟩ := by
  intro m p result
  have hFields :
      ∀ field ∈ p.expr.fields,
        (m.column? field).isSome = true := by
    decide
  rcases
      text_keeps_grouping m .empty
        (Or.inr ⟨rfl, rfl⟩)
        ((Built.eq "age" true).and
          (Built.eq "name" false).not)
        hFields with
    ⟨text, region, _, hText, _, hRegion, hRegions⟩
  refine ⟨by decide, ?_⟩
  have hSame : result.draft.text = text :=
    hText.trans String.empty_append
  rw [hSame, hRegion]
  exact
    congrArg some (List.head_eq_of_cons_eq hRegions).symm

end Predicate

end RecordQuery
