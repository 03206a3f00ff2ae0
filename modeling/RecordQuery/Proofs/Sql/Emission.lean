import RecordQuery.Proofs.Sql.Lexeme
import RecordQuery.Session.Selection

/-
  Emissions: what rendering does to a draft, in closed form.

  Key definitions include:
    * `RecordQuery.Emission`
    * `RecordQuery.Expr.emission`
    * `RecordQuery.Select.emission`
    * `RecordQuery.Fragment.emission`

  Key theorems include:
    * `RecordQuery.Expr.emits_render`
    * `RecordQuery.Select.emits_render`
    * `RecordQuery.Fragment.progress_eq`
    * `RecordQuery.Selection.compile_eq`

  An emission is a list of marks, with the fault that ended
  it if there was one.  It depends on the mapping only: the
  dialect and the draft come in when it is written.  All
  that is known about rendering follows from its emission.
-/

------------------------------------------------------------
-- Emissions
------------------------------------------------------------

namespace RecordQuery

/- The marks written, and the fault that ended them. -/
structure Emission where
  marks : List Mark
  fault : Option Fault
  deriving DecidableEq, Repr

namespace Emission

/- No marks and no fault. -/
def nothing : Emission :=
  ⟨[], none⟩

/- A single mark. -/
def ofMark
    (mark : Mark) :
    Emission :=
  ⟨[mark], none⟩

/- A fixed text. -/
def fixed
    (text : String) :
    Emission :=
  ofMark (.fixed text)

/- A fault before any mark. -/
def ofFault
    (fault : Fault) :
    Emission :=
  ⟨[], some fault⟩

/- One emission after another, which a fault prevents. -/
def andThen
    (first second : Emission) :
    Emission :=
  match first.fault with
  | none => ⟨first.marks ++ second.marks, second.fault⟩
  | some _ => first

instance : Append Emission :=
  ⟨andThen⟩

/- What is left of a draft when an emission is written. -/
def progress
    (d : Dialect)
    (draft : Draft)
    (e : Emission) :
    Fragment.Progress :=
  ⟨e.fault, draft.extend d e.marks⟩

/- After an emission without a fault the next one follows. -/
theorem append_of_fault_eq_none
    {first : Emission}
    (second : Emission)
    (hFault : first.fault = none) :
    first ++ second =
      ⟨first.marks ++ second.marks, second.fault⟩ := by
  change first.andThen second = _
  simp [andThen, hFault]

/- After a fault nothing follows. -/
theorem append_of_fault_eq_some
    {first : Emission}
    {fault : Fault}
    (second : Emission)
    (hFault : first.fault = some fault) :
    first ++ second = first := by
  change first.andThen second = _
  simp [andThen, hFault]

/- A fixed text never prevents what follows. -/
@[simp] theorem fixed_append
    (text : String)
    (second : Emission) :
    fixed text ++ second =
      ⟨.fixed text :: second.marks, second.fault⟩ :=
  rfl

/- The first fault counts. -/
theorem fault_append
    (first second : Emission) :
    (first ++ second).fault =
      first.fault.or second.fault := by
  cases hFault : first.fault with
  | none =>
      rw [append_of_fault_eq_none second hFault]
      rfl
  | some fault =>
      rw [append_of_fault_eq_some second hFault, hFault]
      rfl

/- There is no fault where neither part has one. -/
theorem fault_append_eq_none_iff
    (first second : Emission) :
    (first ++ second).fault = none ↔
      first.fault = none ∧ second.fault = none := by
  rw [fault_append, Option.or_eq_none_iff]

/- Nothing before an emission changes nothing. -/
@[simp] theorem nothing_append
    (e : Emission) :
    nothing ++ e = e :=
  rfl

/- Nothing after an emission changes nothing. -/
@[simp] theorem append_nothing
    (e : Emission) :
    e ++ nothing = e := by
  rcases e with ⟨marks, fault⟩
  cases fault with
  | none =>
      rw [append_of_fault_eq_none nothing rfl]
      simp [nothing]
  | some fault => exact append_of_fault_eq_some nothing rfl

/- What the first part has written stays. -/
theorem marks_prefix_append
    (first second : Emission) :
    first.marks <+: (first ++ second).marks := by
  cases hFault : first.fault with
  | none =>
      rw [append_of_fault_eq_none second hFault]
      exact List.prefix_append _ _
  | some fault =>
      simp [append_of_fault_eq_some second hFault]

end Emission

end RecordQuery

------------------------------------------------------------
-- Emissions Of Filters And Statements
------------------------------------------------------------

namespace RecordQuery

/- The emission of a field's column. -/
def Mapping.emission
    (m : Mapping)
    (field : String) :
    Emission :=
  match m.column field with
  | .error fault => .ofFault fault
  | .ok column => .ofMark (.identifier column)

namespace Operator

/- What stands before the first of two operands. -/
def opening : Operator → Emission
| .eq => .nothing
| _ => .fixed "("

/- What stands between two operands. -/
def joint : Operator → Emission
| .eq => .fixed (" " ++ Operator.eq.text ++ " ")
| operator => .fixed (") " ++ operator.text ++ " (")

/- What stands after the second of two operands. -/
def closing : Operator → Emission
| .eq => .nothing
| _ => .fixed ")"

variable (operator : Operator)

/- There is no fault before the first operand. -/
theorem fault_opening :
    operator.opening.fault = none := by
  cases operator <;> rfl

/- There is no fault between the operands. -/
theorem fault_joint :
    operator.joint.fault = none := by
  cases operator <;> rfl

/- There is no fault after the second operand. -/
theorem fault_closing :
    operator.closing.fault = none := by
  cases operator <;> rfl

end Operator

/- The emission of an expression under a mapping. -/
def Expr.emission
    (m : Mapping) :
    Expr → Emission
| .column field => m.emission field
| .argument value => .ofMark (.argument value)
| .unary .not right =>
    .fixed (" " ++ Operator.not.text ++ " (") ++
      (right.emission m ++ .fixed ")")
| .unary operator _ =>
    .ofFault (.malformedPredicate operator)
| .binary .not _ _ => .ofFault (.malformedPredicate .not)
| .binary operator left right =>
    operator.opening ++
      (left.emission m ++
        (operator.joint ++
          (right.emission m ++ operator.closing)))

/- Two operands are emitted for every operator but `NOT`. -/
theorem Expr.emission_binary
    (m : Mapping)
    {operator : Operator}
    (left right : Expr)
    (hOperator : operator ≠ .not) :
    (Expr.binary operator left right).emission m =
      operator.opening ++
        (left.emission m ++
          (operator.joint ++
            (right.emission m ++ operator.closing))) := by
  cases operator with
  | not => exact absurd rfl hOperator
  | eq | and | or => rfl

namespace Select

/- The emission of what is selected from. -/
def tableEmission
    (m : Mapping) :
    Option String → Emission
| none => .ofMark (.identifier m.table)
| some table => .fixed table

/- The emission of a condition, if there is one. -/
def conditionEmission
    (m : Mapping) :
    Option Expr → Emission
| none => .nothing
| some condition =>
    .fixed " WHERE " ++ condition.emission m

/- The emission of a whole statement. -/
def emission
    (m : Mapping)
    (s : Select) :
    Emission :=
  .fixed "SELECT * FROM " ++
    (tableEmission m s.table ++
      (conditionEmission m s.condition ++ .fixed ";"))

end Select

/-
  The emission of a fragment.  A placeholder that is written
  again has none: it takes a number that is already bound.
-/
def Fragment.emission
    (m : Mapping) :
    Fragment → Emission
| .expr value => value.emission m
| .column field => m.emission field
| .argument value => .ofMark (.argument value)
| .identifier name => .ofMark (.identifier name)
| .table => .ofMark (.identifier m.table)
| .placeholder => .nothing
| .substituted text search replacement =>
    .fixed (Text.substitute search replacement text)
| .select value => value.emission m

end RecordQuery

------------------------------------------------------------
-- Rendering Writes The Emission
------------------------------------------------------------

namespace RecordQuery

/- A writing that leaves what an emission says. -/
def Writing.Emits
    (d : Dialect)
    (w : Writing Unit)
    (e : Emission) :
    Prop :=
  ∀ draft : Draft,
    w.run draft =
      match e.fault with
      | none => .ok () (draft.extend d e.marks)
      | some fault => .error fault (draft.extend d e.marks)

namespace Writing

variable {d : Dialect}

/- Writing nothing is the empty emission. -/
theorem emits_pure :
    Emits d (pure ()) .nothing := by
  intro draft
  simp [Emission.nothing, pure, EStateM.pure, EStateM.run]

/- A piece of text is a fixed text. -/
theorem emits_append
    (piece : String) :
    Emits d (append piece) (.fixed piece) := by
  intro draft
  rw [run_append]
  simp only [Emission.fixed, Emission.ofMark,
    Draft.extend_fixed]

/- A fault writes nothing. -/
theorem emits_throw
    (fault : Fault) :
    Emits d (throw fault) (.ofFault fault) := by
  intro draft
  simp only [Emission.ofFault, Draft.extend_nil]
  rfl

/- Writings in sequence emit one after the other. -/
theorem emits_bind
    {w next : Writing Unit}
    {first second : Emission}
    (hFirst : Emits d w first)
    (hSecond : Emits d next second) :
    Emits d (w >>= fun _ => next) (first ++ second) := by
  intro draft
  have hRun := hFirst draft
  change EStateM.bind w (fun _ => next) draft = _
  unfold EStateM.bind
  change w draft = _ at hRun
  rw [hRun]
  cases hFault : first.fault with
  | none =>
      rw [Emission.append_of_fault_eq_none second hFault]
      dsimp only
      rw [Draft.extend_append]
      exact hSecond (draft.extend d first.marks)
  | some fault =>
      rw [Emission.append_of_fault_eq_some second hFault,
        hFault]

end Writing

namespace Dialect

variable (d : Dialect)

/- An identifier is one mark. -/
theorem emits_writeIdentifier
    (name : String) :
    Writing.Emits d (d.writeIdentifier name)
      (.ofMark (.identifier name)) := by
  intro draft
  unfold writeIdentifier
  rw [Writing.run_append]
  simp only [Emission.ofMark, Draft.extend_identifier]

/- A column is the identifier that its field maps to. -/
theorem emits_writeColumn
    (m : Mapping)
    (field : String) :
    Writing.Emits d (d.writeColumn m field)
      (m.emission field) := by
  unfold writeColumn Mapping.emission
  cases m.column field with
  | error fault => exact Writing.emits_throw fault
  | ok column => exact d.emits_writeIdentifier column

/- An argument is one mark with a number of its own. -/
theorem emits_writeArgument
    (value : Argument) :
    Writing.Emits d (d.writeArgument value)
      (.ofMark (.argument value)) := by
  intro draft
  simp only [Emission.ofMark, Draft.extend_argument]
  rfl

end Dialect

/- Rendering an expression writes its emission. -/
theorem Expr.emits_render
    (d : Dialect)
    (m : Mapping)
    (e : Expr) :
    Writing.Emits d (e.render d m) (e.emission m) := by
  induction e with
  | column field => exact d.emits_writeColumn m field
  | argument value => exact d.emits_writeArgument value
  | unary operator right ih =>
      cases operator with
      | not =>
          apply Writing.emits_bind (Writing.emits_append _)
          apply Writing.emits_bind ih
          exact Writing.emits_append _
      | eq => exact Writing.emits_throw _
      | and => exact Writing.emits_throw _
      | or => exact Writing.emits_throw _
  | binary operator left right leftIH rightIH =>
      -- Both connectives are rendered in the same way.
      have hClosing :=
        Writing.emits_bind rightIH
          (Writing.emits_append ")")
      have hConnective (connective : Operator) :=
        Writing.emits_bind (Writing.emits_append "(")
          (Writing.emits_bind leftIH
            (Writing.emits_bind
              (Writing.emits_append
                (") " ++ connective.text ++ " ("))
              hClosing))
      cases operator with
      | eq =>
          simp only [emission, Operator.opening,
            Operator.closing, Emission.nothing_append,
            Emission.append_nothing]
          apply Writing.emits_bind leftIH
          apply Writing.emits_bind (Writing.emits_append _)
          exact rightIH
      | not => exact Writing.emits_throw _
      | and => exact hConnective .and
      | or => exact hConnective .or

/- Rendering a statement writes its emission. -/
theorem Select.emits_render
    (d : Dialect)
    (m : Mapping)
    (s : Select) :
    Writing.Emits d (s.render d m) (s.emission m) := by
  have hTable :
      Writing.Emits d (renderTable d m s.table)
        (tableEmission m s.table) := by
    cases s.table with
    | none => exact d.emits_writeIdentifier m.table
    | some table => exact Writing.emits_append table
  have hCondition :
      Writing.Emits d (renderCondition d m s.condition)
        (conditionEmission m s.condition) := by
    cases s.condition with
    | none => exact Writing.emits_pure
    | some condition =>
        apply Writing.emits_bind (Writing.emits_append _)
        exact condition.emits_render d m
  apply Writing.emits_bind (Writing.emits_append _)
  apply Writing.emits_bind hTable
  apply Writing.emits_bind hCondition
  exact Writing.emits_append _

namespace Fragment

/- Every fragment but a repeated placeholder is an emission. -/
theorem progress_eq
    (d : Dialect)
    (m : Mapping)
    (draft : Draft)
    {fragment : Fragment}
    (hFragment : fragment ≠ .placeholder) :
    progress d m draft fragment =
      (fragment.emission m).progress d draft := by
  have hEmits :
      Writing.Emits d (fragment.render d m)
        (fragment.emission m) := by
    cases fragment with
    | expr value => exact value.emits_render d m
    | column field => exact d.emits_writeColumn m field
    | argument value => exact d.emits_writeArgument value
    | identifier name => exact d.emits_writeIdentifier name
    | table => exact d.emits_writeIdentifier m.table
    | placeholder => exact absurd rfl hFragment
    | substituted text search replacement =>
        rw [render, Writing.appendSubstituted_eq_append]
        exact Writing.emits_append _
    | select value => exact value.emits_render d m
  unfold progress Emission.progress
  rw [hEmits draft]
  cases (fragment.emission m).fault with
  | none => rfl
  | some fault => rfl

end Fragment

/- A selection compiles to what its statement emits. -/
theorem Selection.compile_eq
    (s : Selection)
    (m : Mapping) :
    s.compile m =
      match
        Fragment.progress s.database.dialect m .empty
          (.select ⟨s.table, s.condition⟩) with
      | ⟨none, draft⟩ => .ok ⟨draft.text, draft.args⟩
      | ⟨some fault, _⟩ => .error fault := by
  unfold compile Fragment.progress Fragment.render
  dsimp only
  cases
    (Select.render s.database.dialect m
      ⟨s.table, s.condition⟩).run .empty with
  | ok result draft => rfl
  | error fault draft => rfl

end RecordQuery
