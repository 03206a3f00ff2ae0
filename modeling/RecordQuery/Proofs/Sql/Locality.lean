import RecordQuery.Proofs.Filter.Fields

/-
  Rendering an expression reads the columns of its own
  fields and nothing else of a mapping.

  Key definitions include:
    * `RecordQuery.Mapping.AgreeOn`

  Key theorems include:
    * `RecordQuery.Expr.emission_of_agreeOn`
    * `RecordQuery.Expr.render_reads_named_columns_only`

  Of a draft only the counter is read.  So a filter keeps
  its text when other fields of its record type, or the
  table, get other names.
-/

------------------------------------------------------------
-- Agreeing Mappings
------------------------------------------------------------

namespace RecordQuery

namespace Mapping

/- The same columns, or none, for each of the fields. -/
def AgreeOn
    (m other : Mapping)
    (fields : List String) :
    Prop :=
  ∀ field ∈ fields, m.column? field = other.column? field

variable {m other : Mapping}

/- Agreement on more fields is agreement on each part. -/
theorem agreeOn_append_iff
    {fields more : List String} :
    m.AgreeOn other (fields ++ more) ↔
      m.AgreeOn other fields ∧ m.AgreeOn other more :=
  List.forall_mem_append

/- Fields with the same column are emitted alike. -/
theorem emission_of_column?_eq
    {field : String}
    (hColumn : m.column? field = other.column? field) :
    m.emission field = other.emission field := by
  unfold emission column
  rw [hColumn]

end Mapping

namespace Expr

variable {m other : Mapping}

/-
  Expressions are emitted alike under mappings that agree on
  their fields, also up to a fault in the middle.
-/
theorem emission_of_agreeOn
    {e : Expr}
    (hAgree : m.AgreeOn other e.fields) :
    e.emission m = e.emission other := by
  induction e with
  | column field =>
      exact
        Mapping.emission_of_column?_eq
          (hAgree field (List.mem_singleton_self field))
  | argument value => rfl
  | unary operator right ih =>
      cases operator with
      | not => rw [emission, emission, ih hAgree]
      | eq | and | or => rfl
  | binary operator left right leftIH rightIH =>
      rw [fields, Mapping.agreeOn_append_iff] at hAgree
      rcases hAgree with ⟨hLeft, hRight⟩
      by_cases hOperator : operator = .not
      · subst hOperator
        rfl
      · rw [emission_binary m left right hOperator,
          emission_binary other left right hOperator,
          leftIH hLeft, rightIH hRight]

end Expr

end RecordQuery

------------------------------------------------------------
-- Two Renderings
------------------------------------------------------------

namespace RecordQuery

/-
  A draft with more text and more arguments, each of which
  has been counted.
-/
def Draft.add
    (draft : Draft)
    (text : String)
    (args : List Argument) :
    Draft :=
  ⟨draft.text ++ text,
    draft.counter + UInt32.ofNat args.length,
    draft.args ++ args⟩

/-
  What an expression adds to a draft depends on its emission
  and on the counter of the draft.
-/
theorem Expr.progress_eq_add
    (d : Dialect)
    (m : Mapping)
    (draft : Draft)
    (e : Expr) :
    Fragment.progress d m draft (.expr e) =
      ⟨(e.emission m).fault,
        draft.add
          (Lexeme.texts d
            (Mark.number draft.counter (e.emission m).marks))
          (Mark.arguments (e.emission m).marks)⟩ :=
  Fragment.progress_eq d m draft (by simp)

/-
  Rendering an expression looks at nothing but the columns
  of the fields that it names.  From two drafts with one
  counter, and under two mappings that agree on those
  fields, it ends with the same fault or with none and adds
  the same text and the same arguments, whatever the drafts
  hold and the mappings say otherwise.  What is rendered
  after it finds each mapping as it was.
-/
theorem Expr.render_reads_named_columns_only
    (d : Dialect)
    (e : Expr)
    (m other : Mapping)
    (first second : Draft)
    (hAgree :
      ∀ field ∈ e.fields,
        m.column? field = other.column? field)
    (hCounter : first.counter = second.counter) :
    ∃ (fault : Option Fault) (text : String)
        (args : List Argument),
      ∀ rest : List Fragment,
        Fragment.renderAll d m first (.expr e :: rest) =
            ⟨fault, first.add text args⟩ ::
              Fragment.renderAll d m
                (first.add text args) rest ∧
          Fragment.renderAll d other second
              (.expr e :: rest) =
            ⟨fault, second.add text args⟩ ::
              Fragment.renderAll d other
                (second.add text args) rest := by
  have hFirst := e.progress_eq_add d m first
  have hSecond := e.progress_eq_add d other second
  rw [← emission_of_agreeOn hAgree, ← hCounter] at hSecond
  refine
    ⟨(e.emission m).fault,
      Lexeme.texts d
        (Mark.number first.counter (e.emission m).marks),
      Mark.arguments (e.emission m).marks, ?_⟩
  intro rest
  constructor
  · rw [Fragment.renderAll, hFirst]
  · rw [Fragment.renderAll, hSecond]

/-
  The tables and the columns of another field differ, and
  so do the drafts.  Both renderings stop at the missing
  field, and what follows is rendered under each mapping.
-/
theorem Expr.render_reads_named_columns_only_before_fault :
    let m :=
      Mapping.ofFields "people" [("age", "a"), ("id", "i")]
    let other :=
      Mapping.ofFields "users" [("age", "a"), ("id", "key")]
    let value : Argument := .scalar (.varchar "x")
    let e : Expr :=
      .binary .and
        (.binary .eq (.column "age") (.argument value))
        (.unary .not (.column "missing"))
    let first : Draft := ⟨"", 3, []⟩
    let second : Draft := ⟨"-- ", 3, [.untyped, .untyped]⟩
    let rest : List Fragment := [.column "id"]
    let fault : Fault := .unknownField "missing"
    let text := "(\"a\" = $4) AND ( NOT ("
    (∀ field ∈ e.fields,
        m.column? field = other.column? field) ∧
      first.counter = second.counter ∧
      Fragment.renderAll .postgres m first
          (.expr e :: rest) =
        [⟨some fault, first.add text [value]⟩,
          ⟨none, first.add (text ++ "\"i\"") [value]⟩] ∧
      Fragment.renderAll .postgres other second
          (.expr e :: rest) =
        [⟨some fault, second.add text [value]⟩,
          ⟨none, second.add (text ++ "\"key\"") [value]⟩] := by
  intro m other value e first second rest fault text
  have hAgree :
      ∀ field ∈ e.fields,
        m.column? field = other.column? field := by
    decide
  have hFirst :
      Fragment.renderAll .postgres m first [.expr e] =
        [⟨some fault, first.add text [value]⟩] := by
    decide
  rcases
      render_reads_named_columns_only .postgres e m other
        first second hAgree rfl
    with
    ⟨_, added, args, hRun⟩
  -- What is added is read off the first rendering alone.
  have hAdded := (hRun []).1.symm.trans hFirst
  simp only [Fragment.renderAll, Draft.add, first,
    List.cons.injEq, Fragment.Progress.mk.injEq,
    Draft.mk.injEq, String.empty_append, List.nil_append,
    and_true] at hAdded
  rcases hAdded with ⟨rfl, rfl, _, rfl⟩
  refine ⟨hAgree, rfl, ?_, ?_⟩
  · rw [(hRun rest).1]
    decide
  · rw [(hRun rest).2]
    decide

end RecordQuery
