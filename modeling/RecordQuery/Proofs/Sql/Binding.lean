import RecordQuery.Proofs.Filter.Arguments
import RecordQuery.Proofs.Sql.Emission

/-
  Placeholders and the arguments bound to them.

  Key definitions include:
    * `RecordQuery.Emission.Binds`
    * `RecordQuery.Draft.Aligned`
    * `RecordQuery.Draft.Counted`
    * `RecordQuery.Fragment.marks`

  Key theorems include:
    * `RecordQuery.Expr.binds_emission`
    * `RecordQuery.Fragment.getElem?_renderAll`
    * `RecordQuery.Fragment.renderAll_aligned`

  However many fragments are written to one draft, and
  whichever of them fail, the placeholders in its text count
  on from the start, and each stands where its own argument
  stood.  As long as there is room for them, the numbers are
  the natural ones after the start.
-/

------------------------------------------------------------
-- Bound Arguments
------------------------------------------------------------

namespace RecordQuery

/-
  An emission binds the given arguments in order: a part
  from the left if there is a fault, else all of them.
-/
structure Emission.Binds
    (e : Emission)
    (args : List Argument) :
    Prop where
  isPrefix : Mark.arguments e.marks <+: args
  complete :
    e.fault = none → Mark.arguments e.marks = args

namespace Emission

/- The empty emission binds nothing. -/
theorem binds_nothing :
    nothing.Binds [] :=
  ⟨List.prefix_rfl, fun _ => rfl⟩

/- A mark binds its argument if it has one. -/
theorem binds_ofMark
    (mark : Mark) :
    (ofMark mark).Binds (Mark.arguments [mark]) :=
  ⟨List.prefix_rfl, fun _ => rfl⟩

/- A fault leaves all arguments unbound. -/
theorem binds_ofFault
    (fault : Fault)
    (args : List Argument) :
    (ofFault fault).Binds args where
  isPrefix := List.nil_prefix
  complete := fun hFault => by cases hFault

/- In sequence, arguments are bound in sequence. -/
theorem binds_append
    {first second : Emission}
    {args more : List Argument}
    (hFirst : first.Binds args)
    (hSecond : second.Binds more) :
    (first ++ second).Binds (args ++ more) := by
  cases hFault : first.fault with
  | none =>
      rw [append_of_fault_eq_none second hFault]
      have hArgs := hFirst.complete hFault
      constructor
      · rw [Mark.arguments_append, hArgs]
        exact
          (List.prefix_append_right_inj args).mpr
            hSecond.isPrefix
      · intro hNone
        rw [Mark.arguments_append, hArgs,
          hSecond.complete hNone]
  | some fault =>
      rw [append_of_fault_eq_some second hFault]
      constructor
      · exact
          hFirst.isPrefix.trans (List.prefix_append _ _)
      · intro hNone
        rw [hFault] at hNone
        cases hNone

/- A fixed text binds nothing. -/
theorem binds_fixed
    (text : String) :
    (fixed text).Binds [] :=
  binds_ofMark (.fixed text)

/- What binds nothing may stand in front. -/
theorem binds_append_of_nil_left
    {first second : Emission}
    {args : List Argument}
    (hFirst : first.Binds [])
    (hSecond : second.Binds args) :
    (first ++ second).Binds args :=
  binds_append hFirst hSecond

/- What binds nothing may stand at the end. -/
theorem binds_append_of_nil_right
    {first second : Emission}
    {args : List Argument}
    (hFirst : first.Binds args)
    (hSecond : second.Binds []) :
    (first ++ second).Binds args := by
  have hBoth := binds_append hFirst hSecond
  rwa [List.append_nil] at hBoth

end Emission

/- A field binds nothing. -/
theorem Mapping.binds_emission
    (m : Mapping)
    (field : String) :
    (m.emission field).Binds [] := by
  unfold Mapping.emission
  cases m.column field with
  | error fault => exact Emission.binds_ofFault fault []
  | ok column => exact Emission.binds_ofMark _

namespace Operator

variable (operator : Operator)

/- Nothing is bound before the first operand. -/
theorem binds_opening :
    operator.opening.Binds [] := by
  cases operator with
  | eq => exact Emission.binds_nothing
  | not | and | or => exact Emission.binds_ofMark _

/- Nothing is bound between the operands. -/
theorem binds_joint :
    operator.joint.Binds [] := by
  cases operator <;> exact Emission.binds_ofMark _

/- Nothing is bound after the second operand. -/
theorem binds_closing :
    operator.closing.Binds [] := by
  cases operator with
  | eq => exact Emission.binds_nothing
  | not | and | or => exact Emission.binds_ofMark _

end Operator

/- An expression binds its arguments from left to right. -/
theorem Expr.binds_emission
    (m : Mapping)
    (e : Expr) :
    (e.emission m).Binds e.arguments := by
  induction e with
  | column field => exact m.binds_emission field
  | argument value => exact Emission.binds_ofMark _
  | unary operator right ih =>
      cases operator with
      | not =>
          apply Emission.binds_append_of_nil_left
          · exact Emission.binds_fixed _
          · apply Emission.binds_append_of_nil_right ih
            exact Emission.binds_fixed _
      | eq => exact Emission.binds_ofFault _ _
      | and => exact Emission.binds_ofFault _ _
      | or => exact Emission.binds_ofFault _ _
  | binary operator left right leftIH rightIH =>
      have hRight :=
        Emission.binds_append_of_nil_right rightIH
          operator.binds_closing
      have hAfterLeft :=
        Emission.binds_append_of_nil_left
          operator.binds_joint hRight
      have hOperands :=
        Emission.binds_append_of_nil_left
          operator.binds_opening
          (Emission.binds_append leftIH hAfterLeft)
      cases operator with
      | not => exact Emission.binds_ofFault _ _
      | eq | and | or => exact hOperands

/- The arguments of a statement's condition. -/
def Select.arguments
    (s : Select) :
    List Argument :=
  match s.condition with
  | none => []
  | some condition => condition.arguments

/- A statement binds the arguments of its condition. -/
theorem Select.binds_emission
    (m : Mapping)
    (s : Select) :
    (s.emission m).Binds s.arguments := by
  rcases s with ⟨table, condition⟩
  have hTable : (tableEmission m table).Binds [] := by
    cases table with
    | none => exact Emission.binds_ofMark _
    | some table => exact Emission.binds_ofMark _
  have hCondition :
      (conditionEmission m condition).Binds
        (arguments ⟨table, condition⟩) := by
    cases condition with
    | none => exact Emission.binds_nothing
    | some condition =>
        apply Emission.binds_append_of_nil_left
        · exact Emission.binds_fixed _
        · exact condition.binds_emission m
  apply Emission.binds_append_of_nil_left
  · exact Emission.binds_fixed _
  · apply Emission.binds_append_of_nil_left hTable
    apply Emission.binds_append_of_nil_right hCondition
    exact Emission.binds_fixed _

namespace Fragment

/- The arguments of a fragment from left to right. -/
def arguments : Fragment → List Argument
| .expr value => value.arguments
| .argument value => [value]
| .select value => value.arguments
| _ => []

/- A fragment binds its own arguments. -/
theorem binds_emission
    (m : Mapping)
    (fragment : Fragment) :
    (fragment.emission m).Binds fragment.arguments := by
  cases fragment with
  | expr value => exact value.binds_emission m
  | column field => exact m.binds_emission field
  | argument value => exact Emission.binds_ofMark _
  | identifier name => exact Emission.binds_ofMark _
  | table => exact Emission.binds_ofMark _
  | placeholder => exact Emission.binds_nothing
  | substituted text search replacement =>
      exact Emission.binds_ofMark _
  | select value => exact value.binds_emission m

end Fragment

end RecordQuery

------------------------------------------------------------
-- Runs Of Fragments
------------------------------------------------------------

namespace RecordQuery

namespace Draft

/-
  The later draft is the earlier one with text and arguments
  added, and with as many placeholders counted as arguments.
-/
def Continues
    (earlier later : Draft) :
    Prop :=
  ∃ text args,
    later =
      ⟨earlier.text ++ text,
        earlier.counter + UInt32.ofNat args.length,
        earlier.args ++ args⟩

/-
  A draft that consists of `start` and of lexemes, whose
  placeholders are numbered on from the start and whose
  arguments are the added ones.
-/
structure Aligned
    (d : Dialect)
    (start : Draft)
    (lexemes : List Lexeme)
    (draft : Draft) :
    Prop where
  text : draft.text = start.text ++ Lexeme.texts d lexemes
  args :
    draft.args =
      start.args ++ (Lexeme.bindings lexemes).map Prod.snd
  counter :
    draft.counter =
      start.counter +
        UInt32.ofNat (Lexeme.bindings lexemes).length
  numbers :
    (Lexeme.bindings lexemes).map Prod.fst =
      Counter.numbers start.counter
        (Lexeme.bindings lexemes).length

/-
  A draft whose lexemes are numbered with the natural
  numbers after the start, up to the draft's own counter.
-/
structure Counted
    (start : Draft)
    (lexemes : List Lexeme)
    (draft : Draft) :
    Prop where
  counter :
    draft.counter.toNat =
      start.counter.toNat +
        (Lexeme.bindings lexemes).length
  numbers :
    (Lexeme.bindings lexemes).map
        (fun binding => binding.1.toNat) =
      List.range' (start.counter.toNat + 1)
        (Lexeme.bindings lexemes).length

/- With room for all numbers, an aligned draft is counted. -/
theorem Aligned.counted
    {d : Dialect}
    {start draft : Draft}
    {lexemes : List Lexeme}
    (hAligned : Aligned d start lexemes draft)
    (hRoom :
      Counter.HasRoom start.counter
        (Lexeme.bindings lexemes).length) :
    Counted start lexemes draft where
  counter := by
    rw [hAligned.counter]
    exact Counter.toNat_add hRoom
  numbers := by
    rw [← Counter.toNat_numbers hRoom, ← hAligned.numbers,
      List.map_map]
    exact List.map_congr_left (fun _ _ => rfl)

/- Writing marks continues a draft. -/
theorem continues_extend
    (d : Dialect)
    (draft : Draft)
    (marks : List Mark) :
    draft.Continues (draft.extend d marks) :=
  ⟨_, _, rfl⟩

/- Writing marks aligns placeholders with arguments. -/
theorem aligned_extend
    (d : Dialect)
    (start : Draft)
    (marks : List Mark) :
    Aligned d start (Mark.number start.counter marks)
      (start.extend d marks) := by
  constructor
  · rfl
  · rw [Mark.values_number]
    rfl
  · rw [Mark.length_bindings_number]
    rfl
  · rw [Mark.length_bindings_number]
    exact Mark.numbers_number start.counter marks

end Draft

namespace Fragment

/- The marks of fragments, one after the other. -/
def marks
    (m : Mapping)
    (fragments : List Fragment) :
    List Mark :=
  fragments.flatMap
    (fun fragment => (fragment.emission m).marks)

variable {fragments : List Fragment}

/-
  After each fragment the draft holds the marks of all the
  fragments so far, those of failed ones included.
-/
theorem getElem?_renderAll
    (d : Dialect)
    (m : Mapping)
    (draft : Draft)
    (hBound : .placeholder ∉ fragments)
    (i : Nat) :
    (renderAll d m draft fragments)[i]? =
      fragments[i]?.map
        (fun fragment =>
          ⟨(fragment.emission m).fault,
            draft.extend d
              (marks m (fragments.take (i + 1)))⟩) := by
  induction fragments generalizing draft i with
  | nil => rfl
  | cons fragment rest ih =>
      have hFragment : fragment ≠ .placeholder :=
        (List.ne_of_not_mem_cons hBound).symm
      have hRest : .placeholder ∉ rest :=
        List.not_mem_of_not_mem_cons hBound
      unfold renderAll
      rw [progress_eq d m draft hFragment]
      cases i with
      | zero => simp [Emission.progress, marks]
      | succ i =>
          simp only [List.getElem?_cons_succ]
          rw [ih _ hRest]
          simp [Emission.progress, marks,
            Draft.extend_append]

/- Every draft of a run continues all earlier ones. -/
theorem pairwise_continues_renderAll
    (d : Dialect)
    (m : Mapping)
    (draft : Draft)
    (hBound : .placeholder ∉ fragments) :
    (draft ::
      (renderAll d m draft fragments).map
        Progress.draft).Pairwise Draft.Continues := by
  induction fragments generalizing draft with
  | nil => exact List.pairwise_singleton _ _
  | cons fragment rest ih =>
      have hRest : .placeholder ∉ rest :=
        List.not_mem_of_not_mem_cons hBound
      refine List.pairwise_cons.mpr ⟨?_, ih _ hRest⟩
      intro later hLater
      rcases List.mem_map.mp hLater with
        ⟨progress, hProgress, rfl⟩
      rcases List.mem_iff_getElem?.mp hProgress with
        ⟨i, hAt⟩
      rw [getElem?_renderAll d m draft hBound] at hAt
      rcases Option.map_eq_some_iff.mp hAt with
        ⟨_, _, rfl⟩
      exact Draft.continues_extend d draft _

/-
  Placeholders and arguments stay aligned over whole runs.
  Whether fragments fail or not, every draft of a run
  continues the earlier ones, and after every fragment the
  text added since the start is that of lexemes whose
  placeholders count on from the start and hold the added
  arguments.  They are counted with natural numbers as long
  as these fit into a word.  A single fragment adds its own
  arguments from left to right, and all of them if it has no
  fault.
-/
theorem renderAll_aligned
    (d : Dialect)
    (m : Mapping)
    (start : Draft)
    (fragments : List Fragment)
    (hBound : .placeholder ∉ fragments) :
    (start ::
        (renderAll d m start fragments).map
          Progress.draft).Pairwise Draft.Continues ∧
      (∀ i progress,
        (renderAll d m start fragments)[i]? =
            some progress →
          let lexemes :=
            Mark.number start.counter
              (marks m (fragments.take (i + 1)))
          Draft.Aligned d start lexemes progress.draft ∧
            (Counter.HasRoom start.counter
                (Lexeme.bindings lexemes).length →
              Draft.Counted start lexemes
                progress.draft)) ∧
      (∀ number : UInt32,
        Dialect.postgres.placeholder number =
          "$" ++ toString number.toNat) ∧
      (∀ fragment ∈ fragments, ∀ draft,
        (progress d m draft fragment).draft.args <+:
            draft.args ++ fragment.arguments ∧
          ((progress d m draft fragment).fault = none →
            (progress d m draft fragment).draft.args =
              draft.args ++ fragment.arguments)) := by
  refine
    ⟨pairwise_continues_renderAll d m start hBound,
      ?_, fun _ => rfl, ?_⟩
  · intro i progress hAt
    rw [getElem?_renderAll d m start hBound] at hAt
    rcases Option.map_eq_some_iff.mp hAt with ⟨_, _, rfl⟩
    have hAligned := Draft.aligned_extend d start
    exact ⟨hAligned _, (hAligned _).counted⟩
  · intro fragment hMem draft
    have hFragment : fragment ≠ .placeholder := by
      intro hEq
      exact hBound (hEq ▸ hMem)
    have hBinds := fragment.binds_emission m
    rw [progress_eq d m draft hFragment]
    constructor
    · exact
        (List.prefix_append_right_inj draft.args).mpr
          hBinds.isPrefix
    · intro hFault
      exact
        congrArg (draft.args ++ ·) (hBinds.complete hFault)

/- Numbering goes on after a fault in the middle. -/
theorem renderAll_aligned_after_fault :
    let m := Mapping.ofFields "people" [("age", "years")]
    let first : Argument := .scalar (.boolean true)
    let second : Argument := .null .varchar
    let start : Draft := ⟨"-- ", 4, [.untyped]⟩
    let fragments : List Fragment :=
      [.expr
          (.binary .and
            (.binary .eq (.column "age") (.argument first))
            (.column "missing")),
        .argument second]
    let lexemes : List Lexeme :=
      [.fixed "(", .identifier "years", .fixed " = ",
        .placeholder 5 first, .fixed ") AND (",
        .placeholder 6 second]
    let last : Draft :=
      ⟨"-- (\"years\" = $5) AND ($6", 6,
        [.untyped, first, second]⟩
    .placeholder ∉ fragments ∧
      (renderAll .postgres m start fragments)[0]?.map
          Progress.fault =
        some (some (.unknownField "missing")) ∧
      Draft.Aligned .postgres start lexemes last ∧
      Counter.HasRoom start.counter
        (Lexeme.bindings lexemes).length ∧
      Draft.Counted start lexemes last := by
  intro m first second start fragments lexemes last
  have hBound : .placeholder ∉ fragments := by decide
  have hLexemes :
      Mark.number start.counter
          (marks m (fragments.take (1 + 1))) =
        lexemes := by
    decide
  have hRun :=
    (renderAll_aligned .postgres m start fragments
      hBound).2.1 1 ⟨none, last⟩ (by decide)
  dsimp only at hRun
  rw [hLexemes] at hRun
  have hRoom :
      Counter.HasRoom start.counter
        (Lexeme.bindings lexemes).length := by
    decide
  exact ⟨hBound, by decide, hRun.1, hRoom, hRun.2 hRoom⟩

/- The largest number is followed by zero. -/
example :
    let value : Argument := .scalar (.boolean true)
    let m := Mapping.ofFields "people" []
    renderAll .postgres m ⟨"", 4294967294, []⟩
        [.argument value, .argument value] =
      [⟨none, "$4294967295", 4294967295, [value]⟩,
        ⟨none, "$4294967295$0", 0, [value, value]⟩] := by
  decide

end Fragment

end RecordQuery
