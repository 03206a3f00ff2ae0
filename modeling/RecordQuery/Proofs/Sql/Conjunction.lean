import RecordQuery.Proofs.Filter.Fields
import RecordQuery.Proofs.Sql.Binding

/-
  The text of predicates that are joined by `AND`.

  Key definitions include:
    * `RecordQuery.Mapping.missing?`
    * `RecordQuery.Predicate.drafts`
    * `RecordQuery.Predicate.joinTexts`

  Key theorems include:
    * `RecordQuery.Expr.Flat.fault_emission`
    * `RecordQuery.Predicate.text_conjunction`
    * `RecordQuery.Predicate.Built.progress_conjunction`

  Predicates are joined from the left, so that the first one
  stands in the innermost parentheses.  The placeholders are
  numbered in the order of the list all the same, and the
  first unknown field of the list is the one reported.
-/

------------------------------------------------------------
-- Missing Fields
------------------------------------------------------------

namespace RecordQuery

/- The first of some fields that has no column. -/
def Mapping.missing?
    (m : Mapping)
    (fields : List String) :
    Option String :=
  fields.find? (fun field => (m.column? field).isNone)

namespace Mapping

variable (m : Mapping)

/- A field is missing if its column cannot be emitted. -/
theorem fault_emission
    (field : String) :
    (m.emission field).fault =
      (m.missing? [field]).map .unknownField := by
  unfold emission column missing?
  cases hColumn : m.column? field with
  | none => simp [hColumn, Emission.ofFault]
  | some column => simp [hColumn, Emission.ofMark]

/- The first missing field may be looked for in parts. -/
theorem missing?_append
    (fields more : List String) :
    m.missing? (fields ++ more) =
      (m.missing? fields).or (m.missing? more) :=
  List.find?_append

end Mapping

namespace Expr

variable (m : Mapping)

/- An operator fails as its first failing operand does. -/
theorem fault_emission_binary
    {operator : Operator}
    (left right : Expr)
    (hOperator : operator ≠ .not) :
    ((binary operator left right).emission m).fault =
      (left.emission m).fault.or
        (right.emission m).fault := by
  rw [emission_binary m left right hOperator]
  simp [Emission.fault_append, operator.fault_opening,
    operator.fault_joint, operator.fault_closing]

/-
  An expression in which every operator has the operands it
  takes fails at its first missing field.
-/
theorem Flat.fault_emission
    {e : Expr}
    (hFlat : e.Flat) :
    (e.emission m).fault =
      (m.missing? e.fields).map .unknownField := by
  induction hFlat with
  | column name => exact m.fault_emission name
  | argument value => rfl
  | negation _ ih =>
      rw [fields, ← ih]
      simp [emission, Emission.fault_append, Emission.fixed,
        Emission.ofMark]
  | comparison _ _ _ _ leftIH rightIH =>
      rw [fault_emission_binary m _ _ (by decide), fields,
        m.missing?_append, Option.map_or, leftIH, rightIH]
  | @connective operator _ _ hOperator _ _ leftIH rightIH =>
      have hNot : operator ≠ .not := by
        rintro rfl
        simp at hOperator
      rw [fault_emission_binary m _ _ hNot, fields,
        m.missing?_append, Option.map_or, leftIH, rightIH]

end Expr

end RecordQuery

------------------------------------------------------------
-- Conjunctions
------------------------------------------------------------

namespace RecordQuery

namespace Predicate

/-
  What predicates leave when each is written to a draft of
  its own, which goes on from the counter of the one before.
-/
def drafts
    (d : Dialect)
    (m : Mapping)
    (counter : UInt32) :
    List Predicate → List Draft
| [] => []
| p :: rest =>
    let result :=
      Fragment.progress d m ⟨"", counter, []⟩
        (.expr p.expr)
    result.draft :: drafts d m result.draft.counter rest

/- Texts of conditions joined by `AND`, from the left. -/
def joinTexts : List String → String
| [] => ""
| first :: rest =>
    rest.foldl
      (fun text next =>
        "(" ++ text ++ ") AND (" ++ next ++ ")")
      first

variable {whole : Predicate}
variable {ps : List Predicate}

/- A conjunction of built predicates is built. -/
theorem Built.conjunction
    (hBuilt : ∀ p ∈ ps, p.Built)
    (hWhole : Predicate.conjunction ps = some whole) :
    whole.Built := by
  cases ps with
  | nil => cases hWhole
  | cons first rest =>
      cases hWhole
      rw [List.forall_mem_cons] at hBuilt
      rcases hBuilt with ⟨hFirst, hRest⟩
      induction rest generalizing first with
      | nil => exact hFirst
      | cons next rest ih =>
          rw [List.forall_mem_cons] at hRest
          exact ih (first.and next) (hFirst.and hRest.1) hRest.2

/-
  Whatever is listed from left to right is listed for a
  conjunction as for its parts.
-/
theorem flatMap_of_conjunction
    {α : Type}
    (list : Expr → List α)
    (hBinary :
      ∀ operator left right,
        list (.binary operator left right) =
          list left ++ list right)
    (hWhole : conjunction ps = some whole) :
    list whole.expr = ps.flatMap (fun p => list p.expr) := by
  cases ps with
  | nil => cases hWhole
  | cons first rest =>
      cases hWhole
      induction rest generalizing first with
      | nil => simp
      | cons next rest ih =>
          rw [List.foldl_cons, ih (first.and next)]
          simp [Predicate.and, expr, hBinary,
            List.append_assoc]

/-
  Both of two predicates are written as the first and then,
  with the counter it has left, the second.
-/
theorem draft_and
    (d : Dialect)
    {m : Mapping}
    {p q : Predicate}
    (counter : UInt32)
    (hLeft : (p.expr.emission m).fault = none)
    (hRight : (q.expr.emission m).fault = none) :
    let left :=
      (Fragment.progress d m ⟨"", counter, []⟩
        (.expr p.expr)).draft
    let right :=
      (Fragment.progress d m ⟨"", left.counter, []⟩
        (.expr q.expr)).draft
    (Fragment.progress d m ⟨"", counter, []⟩
        (.expr (p.and q).expr)).draft =
      ⟨joinTexts [left.text, right.text], right.counter,
        left.args ++ right.args⟩ := by
  have hMarks :
      ((p.and q).expr.emission m).marks =
        [.fixed "("] ++
          ((p.expr.emission m).marks ++
            ([.fixed ") AND ("] ++
              ((q.expr.emission m).marks ++
                [.fixed ")"]))) := by
    change
      (Operator.and.opening ++
        (p.expr.emission m ++
          (Operator.and.joint ++
            (q.expr.emission m ++
              Operator.and.closing)))).marks = _
    rw [Emission.append_of_fault_eq_none _
        (Operator.fault_opening .and),
      Emission.append_of_fault_eq_none _ hLeft,
      Emission.append_of_fault_eq_none _
        (Operator.fault_joint .and),
      Emission.append_of_fault_eq_none _ hRight]
    rfl
  intro left right
  have hText (e : Expr) (counter : UInt32) :=
    Fragment.progress_eq d m ⟨"", counter, []⟩
      (show Fragment.expr e ≠ .placeholder by simp)
  simp only [left, right, hText, Fragment.emission,
    Emission.progress, hMarks, Draft.extend_append,
    Draft.extend_fixed]
  simp [Draft.extend, joinTexts, String.append_assoc]

/-
  The text of a conjunction joins the texts of its parts,
  each with the counter that those before it have left.
-/
theorem text_conjunction
    (d : Dialect)
    {m : Mapping}
    (counter : UInt32)
    (hFaults :
      ∀ p ∈ ps, (p.expr.emission m).fault = none)
    (hWhole : conjunction ps = some whole) :
    (Fragment.progress d m ⟨"", counter, []⟩
        (.expr whole.expr)).draft.text =
      joinTexts ((drafts d m counter ps).map Draft.text) := by
  cases ps with
  | nil => cases hWhole
  | cons first rest =>
      cases hWhole
      induction rest generalizing first with
      | nil => rfl
      | cons next rest ih =>
          rw [List.forall_mem_cons, List.forall_mem_cons]
            at hFaults
          rcases hFaults with ⟨hFirst, hNext, hRest⟩
          have hBoth :
              ((first.and next).expr.emission m).fault =
                none := by
            change
              ((Expr.binary .and first.expr
                  next.expr).emission m).fault =
                none
            rw [Expr.fault_emission_binary m _ _ (by decide),
              hFirst, hNext]
            rfl
          have hTail :=
            ih (first.and next)
              (List.forall_mem_cons.mpr ⟨hBoth, hRest⟩)
          rw [List.foldl_cons, hTail, drafts]
          simp only [draft_and d counter hFirst hNext]
          rfl

/- A conjunction fails at the first missing field of all. -/
theorem Built.fault_conjunction
    (m : Mapping)
    (hBuilt : ∀ p ∈ ps, p.Built)
    (hWhole : Predicate.conjunction ps = some whole) :
    (whole.expr.emission m).fault =
      (m.missing?
        (ps.flatMap (fun p => p.expr.fields))).map
          .unknownField := by
  rw [(Built.conjunction hBuilt hWhole).flat.fault_emission m,
    flatMap_of_conjunction Expr.fields (fun _ _ _ => rfl)
      hWhole]

/- If none is missing in all, none of the parts fails. -/
theorem Built.fault_eq_none_of_mem
    {m : Mapping}
    (hBuilt : ∀ p ∈ ps, p.Built)
    (hNone :
      m.missing? (ps.flatMap (fun p => p.expr.fields)) =
        none) :
    ∀ p ∈ ps, (p.expr.emission m).fault = none := by
  intro p hMem
  have hOwn : m.missing? p.expr.fields = none := by
    unfold Mapping.missing? at hNone ⊢
    rw [List.find?_eq_none] at hNone ⊢
    intro field hField
    exact
      hNone field (List.mem_flatMap.mpr ⟨p, hMem, hField⟩)
  rw [(hBuilt p hMem).flat.fault_emission m, hOwn]
  rfl

/-
  What a conjunction of built predicates leaves: the first
  missing field as its fault, or else the joined texts and
  all arguments in order.
-/
theorem Built.progress_conjunction
    (d : Dialect)
    (m : Mapping)
    (counter : UInt32)
    (hBuilt : ∀ p ∈ ps, p.Built)
    (hWhole : Predicate.conjunction ps = some whole) :
    let missing :=
      m.missing? (ps.flatMap (fun p => p.expr.fields))
    let result :=
      Fragment.progress d m ⟨"", counter, []⟩
        (.expr whole.expr)
    result.fault = missing.map .unknownField ∧
      (missing = none →
        result.draft.text =
            joinTexts
              ((drafts d m counter ps).map Draft.text) ∧
          result.draft.args =
            ps.flatMap (fun p => p.expr.arguments)) := by
  intro missing result
  have hFault := fault_conjunction m hBuilt hWhole
  have hResult :
      result =
        (whole.expr.emission m).progress d
          ⟨"", counter, []⟩ :=
    Fragment.progress_eq d m _ (by simp)
  refine ⟨?_, ?_⟩
  · rw [hResult]
    exact hFault
  · intro hNone
    have hArguments :
        Mark.arguments (whole.expr.emission m).marks =
          whole.expr.arguments := by
      apply (whole.expr.binds_emission m).complete
      rw [hFault]
      exact congrArg (Option.map _) hNone
    refine
      ⟨text_conjunction d counter
          (fault_eq_none_of_mem hBuilt hNone) hWhole, ?_⟩
    rw [← flatMap_of_conjunction Expr.arguments
        (fun _ _ _ => rfl) hWhole,
      ← hArguments, hResult]
    exact List.nil_append _

end Predicate

end RecordQuery
