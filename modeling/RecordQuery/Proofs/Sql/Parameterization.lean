import RecordQuery.Proofs.Sql.Binding

/-
  The text of a statement does not depend on its arguments.

  Key definitions include:
    * `RecordQuery.Emission.blank`
    * `RecordQuery.Draft.Twins`

  Key theorems include:
    * `RecordQuery.Select.emission_blank`
    * `RecordQuery.Emission.twins_of_blank_eq`
    * `RecordQuery.Select.twins_and_same_sql`

  Two conditions that differ in their arguments only are
  rendered alike, up to the same fault if there is one, and
  each binds its own arguments at the same placeholders.
-/

------------------------------------------------------------
-- Blank Emissions
------------------------------------------------------------

namespace RecordQuery

namespace Mark

/- A mark whose argument is left out. -/
def blank : Mark → Mark
| .fixed text => .fixed text
| .identifier name => .identifier name
| .argument _ => .argument .untyped

/- Blank marks have as many arguments. -/
theorem length_arguments_map_blank
    (marks : List Mark) :
    (arguments (marks.map blank)).length =
      (arguments marks).length := by
  induction marks with
  | nil => rfl
  | cons mark rest ih =>
      cases mark with
      | fixed text => exact ih
      | identifier name => exact ih
      | argument value => exact congrArg (· + 1) ih

/- Blank marks have the same text in every dialect. -/
theorem texts_number_map_blank
    (d : Dialect)
    (counter : UInt32)
    (marks : List Mark) :
    Lexeme.texts d (number counter (marks.map blank)) =
      Lexeme.texts d (number counter marks) := by
  induction marks generalizing counter with
  | nil => rfl
  | cons mark rest ih =>
      cases mark with
      | fixed text =>
          simpa [Lexeme.texts, number, blank] using ih counter
      | identifier name =>
          simpa [Lexeme.texts, number, blank] using ih counter
      | argument value =>
          simpa [Lexeme.texts, number, blank, Lexeme.text]
            using ih (counter + 1)

end Mark

namespace Emission

/- An emission whose arguments are left out. -/
def blank
    (e : Emission) :
    Emission :=
  ⟨e.marks.map Mark.blank, e.fault⟩

/- Sequences become blank part by part. -/
theorem blank_append
    (first second : Emission) :
    (first ++ second).blank = first.blank ++ second.blank := by
  cases hFault : first.fault with
  | none =>
      have hBlank : first.blank.fault = none := hFault
      rw [append_of_fault_eq_none second hFault,
        append_of_fault_eq_none second.blank hBlank]
      simp [blank]
  | some fault =>
      have hBlank : first.blank.fault = some fault := hFault
      rw [append_of_fault_eq_some second hFault,
        append_of_fault_eq_some second.blank hBlank]

/- A fixed text is blank already. -/
theorem blank_fixed
    (text : String) :
    (fixed text).blank = fixed text :=
  rfl

end Emission

/- A field has no argument. -/
theorem Mapping.blank_emission
    (m : Mapping)
    (field : String) :
    (m.emission field).blank = m.emission field := by
  unfold Mapping.emission
  cases m.column field with
  | error fault => rfl
  | ok column => rfl

/- What surrounds operands has no argument. -/
theorem Operator.blank_surroundings
    (operator : Operator) :
    operator.opening.blank = operator.opening ∧
      operator.joint.blank = operator.joint ∧
      operator.closing.blank = operator.closing := by
  cases operator <;> exact ⟨rfl, rfl, rfl⟩

/- Blank expressions have blank emissions. -/
theorem Expr.emission_blank
    (m : Mapping)
    (e : Expr) :
    e.blank.emission m = (e.emission m).blank := by
  induction e with
  | column field => exact (m.blank_emission field).symm
  | argument value => rfl
  | unary operator right ih =>
      cases operator with
      | not =>
          simp only [blank, emission, ih,
            Emission.blank_append, Emission.blank_fixed]
      | eq => rfl
      | and => rfl
      | or => rfl
  | binary operator left right leftIH rightIH =>
      rcases operator.blank_surroundings with
        ⟨hOpening, hJoint, hClosing⟩
      cases operator with
      | not => rfl
      | eq | and | or =>
          simp only [blank, emission, leftIH, rightIH,
            Emission.blank_append, hOpening, hJoint,
            hClosing]

/- The emission of a blank condition is blank. -/
theorem Select.emission_blank
    (m : Mapping)
    (table : Option String)
    (condition : Option Expr) :
    emission m ⟨table, condition.map Expr.blank⟩ =
      (emission m ⟨table, condition⟩).blank := by
  have hTable :
      (tableEmission m table).blank =
        tableEmission m table := by
    cases table with
    | none => rfl
    | some table => rfl
  have hCondition :
      conditionEmission m (condition.map Expr.blank) =
        (conditionEmission m condition).blank := by
    cases condition with
    | none => rfl
    | some condition =>
        simp only [conditionEmission, Option.map_some,
          Emission.blank_append, Emission.blank_fixed,
          condition.emission_blank m]
  simp only [emission, hCondition, hTable,
    Emission.blank_append, Emission.blank_fixed]

end RecordQuery

------------------------------------------------------------
-- Two Runs
------------------------------------------------------------

namespace RecordQuery

/-
  Two ways to write on from one draft: to the same fault or
  to none, with the same added text and the same counter.
  The placeholders are bound to as many arguments of the one
  list and of the other, from the left; without a fault to
  all of them.
-/
structure Draft.Twins
    (draft : Draft)
    (args others : List Argument)
    (first second : Fragment.Progress) :
    Prop where
  fault : first.fault = second.fault
  drafts :
    ∃ text count,
      first.draft =
          ⟨draft.text ++ text,
            draft.counter + UInt32.ofNat count,
            draft.args ++ args.take count⟩ ∧
        second.draft =
          ⟨draft.text ++ text,
            draft.counter + UInt32.ofNat count,
            draft.args ++ others.take count⟩ ∧
        count ≤ args.length ∧
        args.length = others.length ∧
        (first.fault = none → count = args.length)

/-
  Emissions that are equal but for their arguments make
  twins of every draft.
-/
theorem Emission.twins_of_blank_eq
    {first second : Emission}
    {args others : List Argument}
    (d : Dialect)
    (draft : Draft)
    (hBlank : first.blank = second.blank)
    (hLength : args.length = others.length)
    (hFirst : first.Binds args)
    (hSecond : second.Binds others) :
    draft.Twins args others (first.progress d draft)
      (second.progress d draft) := by
  rcases Emission.mk.inj hBlank with ⟨hMarks, hFault⟩
  have hCount :
      (Mark.arguments second.marks).length =
        (Mark.arguments first.marks).length := by
    rw [← Mark.length_arguments_map_blank second.marks,
      ← hMarks,
      Mark.length_arguments_map_blank first.marks]
  have hText :
      Lexeme.texts d
          (Mark.number draft.counter second.marks) =
        Lexeme.texts d
          (Mark.number draft.counter first.marks) := by
    rw [← Mark.texts_number_map_blank d _ second.marks,
      ← hMarks, Mark.texts_number_map_blank]
  refine
    ⟨hFault,
      Lexeme.texts d (Mark.number draft.counter first.marks),
      (Mark.arguments first.marks).length,
      ?_, ?_, ?_, hLength, ?_⟩
  · rw [← List.prefix_iff_eq_take.mp hFirst.isPrefix]
    rfl
  · rw [← hCount,
      ← List.prefix_iff_eq_take.mp hSecond.isPrefix,
      ← hText]
    rfl
  · exact hFirst.isPrefix.length_le
  · intro hNone
    rw [hFirst.complete hNone]

namespace Select

/- Conditions that differ in arguments have equally many. -/
theorem length_arguments_of_blank_eq
    (table : Option String)
    {first second : Option Expr}
    (hBlank :
      first.map Expr.blank = second.map Expr.blank) :
    (arguments ⟨table, first⟩).length =
      (arguments ⟨table, second⟩).length := by
  cases first with
  | none =>
      cases second with
      | none => rfl
      | some second => cases hBlank
  | some first =>
      cases second with
      | none => cases hBlank
      | some second =>
          exact
            Expr.length_arguments_of_blank_eq
              (Option.some.inj hBlank)

/- Conditions that differ in arguments make twins. -/
theorem twins_progress
    (d : Dialect)
    (m : Mapping)
    (draft : Draft)
    (table : Option String)
    {first second : Option Expr}
    (hBlank :
      first.map Expr.blank = second.map Expr.blank) :
    draft.Twins (arguments ⟨table, first⟩)
      (arguments ⟨table, second⟩)
      (Fragment.progress d m draft (.select ⟨table, first⟩))
      (Fragment.progress d m draft
        (.select ⟨table, second⟩)) := by
  have hEmissions :
      (emission m ⟨table, first⟩).blank =
        (emission m ⟨table, second⟩).blank := by
    rw [← emission_blank, hBlank, emission_blank]
  rw [Fragment.progress_eq d m draft (by simp),
    Fragment.progress_eq d m draft (by simp)]
  exact
    Emission.twins_of_blank_eq d draft hEmissions
      (length_arguments_of_blank_eq table hBlank)
      (binds_emission m ⟨table, first⟩)
      (binds_emission m ⟨table, second⟩)

end Select

/- Such conditions compile to the same text. -/
theorem Selection.map_sql_compile_of_blank_eq
    (database : Database)
    (record : Record)
    (table : Option String)
    {first second : Option Expr}
    (m : Mapping)
    (hBlank :
      first.map Expr.blank = second.map Expr.blank) :
    (compile ⟨database, record, table, first⟩ m).map
        Statement.sql =
      (compile ⟨database, record, table, second⟩ m).map
        Statement.sql := by
  have hTwins :=
    Select.twins_progress database.dialect m .empty table
      hBlank
  rw [compile_eq, compile_eq]
  dsimp only
  generalize
    Fragment.progress database.dialect m .empty
      (.select ⟨table, first⟩) = left at hTwins ⊢
  generalize
    Fragment.progress database.dialect m .empty
      (.select ⟨table, second⟩) = right at hTwins ⊢
  rcases left with ⟨leftFault, leftDraft⟩
  rcases right with ⟨rightFault, rightDraft⟩
  rcases hTwins with
    ⟨hFault, text, count, hLeft, hRight, _⟩
  dsimp only at hFault hLeft hRight
  subst hFault hLeft hRight
  cases leftFault with
  | none => rfl
  | some fault => rfl

/-
  Building looks up the same mapping for both, so that the
  registry and the text are the same as well.
-/
theorem Selection.same_sql_of_blank_eq
    (database : Database)
    (record : Record)
    (table : Option String)
    {first second : Option Expr}
    (r : Registry)
    (hBlank :
      first.map Expr.blank = second.map Expr.blank) :
    (build ⟨database, record, table, first⟩ r).registry =
        (build ⟨database, record, table, second⟩
          r).registry ∧
      (build ⟨database, record, table, first⟩ r).answer.map
          Statement.sql =
        (build ⟨database, record, table, second⟩
          r).answer.map Statement.sql := by
  unfold build
  dsimp only
  cases
    (r.lookup (.pointer .borrowed (.record record))).answer
    with
  | error failure => exact ⟨rfl, rfl⟩
  | ok entry =>
      have hCompile :=
        map_sql_compile_of_blank_eq database record table
          entry.mapping hBlank
      dsimp only
      generalize
        compile ⟨database, record, table, first⟩
          entry.mapping = left at hCompile ⊢
      generalize
        compile ⟨database, record, table, second⟩
          entry.mapping = right at hCompile ⊢
      cases left <;> cases right <;>
        simp_all [Except.map]

/-
  The contents of arguments never reach the text.  For two
  conditions that differ in their arguments only, writing
  the statement ends with the same fault or with none, adds
  the same text and leaves the same counter, and each
  binds its own arguments at the same places.  Selections
  that differ so build statements of the same text.
-/
theorem Select.twins_and_same_sql
    (d : Dialect)
    (m : Mapping)
    (draft : Draft)
    (table : Option String)
    (first second : Option Expr)
    (hBlank :
      first.map Expr.blank = second.map Expr.blank) :
    draft.Twins (arguments ⟨table, first⟩)
        (arguments ⟨table, second⟩)
        (Fragment.progress d m draft
          (.select ⟨table, first⟩))
        (Fragment.progress d m draft
          (.select ⟨table, second⟩)) ∧
      ∀ (database : Database) (record : Record)
        (r : Registry),
        let one : Selection :=
          ⟨database, record, table, first⟩
        let other : Selection :=
          ⟨database, record, table, second⟩
        (one.build r).registry = (other.build r).registry ∧
          (one.build r).answer.map Statement.sql =
            (other.build r).answer.map Statement.sql := by
  refine ⟨twins_progress d m draft table hBlank, ?_⟩
  intro database record r
  exact
    Selection.same_sql_of_blank_eq database record table r
      hBlank

/- A `NULL` for a text, before a fault in the middle. -/
theorem Select.twins_and_same_sql_before_fault :
    let m := Mapping.ofFields "people" [("age", "years")]
    let condition (value : Argument) : Option Expr :=
      some
        (.binary .and
          (.binary .eq (.column "age") (.argument value))
          (.binary .eq (.argument value)
            (.column "missing")))
    let text : Argument := .scalar (.varchar "x' OR 1; --")
    let null : Argument := .null .boolean
    let rendered (value : Argument) : Fragment.Progress :=
      Fragment.progress .generic m .empty
        (.select ⟨some "t", condition value⟩)
    (condition text).map Expr.blank =
        (condition null).map Expr.blank ∧
      Draft.Twins .empty [text, text] [null, null]
        (rendered text) (rendered null) ∧
      rendered text =
        ⟨some (.unknownField "missing"),
          "SELECT * FROM t WHERE (`years` = ?) AND (? = ",
          2, [text, text]⟩ := by
  intro m condition text null rendered
  have hTwins :=
    (twins_and_same_sql .generic m .empty (some "t")
      (condition text) (condition null) rfl).1
  exact ⟨rfl, hTwins, by decide⟩

end RecordQuery
