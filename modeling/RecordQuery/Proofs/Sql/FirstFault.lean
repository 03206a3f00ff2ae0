import RecordQuery.Proofs.Filter.Path
import RecordQuery.Proofs.Sql.Binding

/-
  The fault that rendering an expression ends with.

  Key definitions include:
    * `RecordQuery.Expr.ownFault?`
    * `RecordQuery.Expr.FirstFault`
    * `RecordQuery.Expr.Completes`
    * `RecordQuery.Expr.StopsAt`

  Key theorems include:
    * `RecordQuery.Expr.completes_or_stops`
    * `RecordQuery.Expr.render_stops_at_first_fault`

  Rendering succeeds if no node has a fault of its own.
  Else it stops at the first such node in pre-order, with
  everything written that comes before that node, whatever
  the node is.
-/

------------------------------------------------------------
-- Faults Of Nodes
------------------------------------------------------------

namespace RecordQuery

namespace Expr

/-
  The fault that the root of an expression has by itself: an
  unknown field, or an operator with the wrong number of
  operands.
-/
def ownFault?
    (m : Mapping) :
    Expr → Option Fault
| .column field =>
    match m.column? field with
    | none => some (.unknownField field)
    | some _ => none
| .argument _ => none
| .unary operator _ =>
    if operator = .not then
      none
    else
      some (.malformedPredicate operator)
| .binary operator _ _ =>
    if operator = .not then
      some (.malformedPredicate operator)
    else
      none

/- The fault of the node at a path. -/
def faultAt?
    (m : Mapping)
    (e : Expr)
    (path : Path) :
    Option Fault :=
  (e.subtree? path).bind (ownFault? m)

/-
  The node at `path` is the first one in pre-order that has
  a fault, and `earlier` are the paths before it.
-/
structure FirstFault
    (m : Mapping)
    (e : Expr)
    (earlier : List Path)
    (path : Path)
    (fault : Fault) :
    Prop where
  paths : ∃ later, e.paths = earlier ++ path :: later
  none_earlier :
    ∀ other ∈ earlier, e.faultAt? m other = none
  at_path : e.faultAt? m path = some fault

/- No node has a fault, and neither has the emission. -/
structure Completes
    (m : Mapping)
    (e : Expr) :
    Prop where
  fault : (e.emission m).fault = none
  at_paths : ∀ path ∈ e.paths, e.faultAt? m path = none

/-
  The emission stops at the first faulty node: it has bound
  the arguments before that node, and its marks are the
  first ones also with any other subtree in that place.
-/
structure StopsAt
    (m : Mapping)
    (e : Expr)
    (earlier : List Path)
    (path : Path)
    (fault : Fault) :
    Prop where
  first : e.FirstFault m earlier path fault
  fault : (e.emission m).fault = some fault
  arguments :
    Mark.arguments (e.emission m).marks =
      earlier.filterMap e.argumentAt?
  marks :
    ∀ new,
      (e.emission m).marks <+:
        ((replace new e path).emission m).marks

end Expr

end RecordQuery

------------------------------------------------------------
-- Stopping In An Operand
------------------------------------------------------------

namespace RecordQuery

namespace Emission

/- A longer second part makes a longer whole. -/
theorem marks_append_prefix_append
    (first : Emission)
    {second other : Emission}
    (hMarks : second.marks <+: other.marks) :
    (first ++ second).marks <+: (first ++ other).marks := by
  cases hFault : first.fault with
  | none =>
      rw [append_of_fault_eq_none second hFault,
        append_of_fault_eq_none other hFault]
      exact
        (List.prefix_append_right_inj first.marks).mpr hMarks
  | some fault =>
      simp [append_of_fault_eq_some second hFault,
        append_of_fault_eq_some other hFault]

end Emission

namespace Expr

variable {m : Mapping}
variable {left right : Expr}
variable {earlier : List Path}
variable {path : Path}
variable {fault : Fault}

/-
  There is no fault on paths through sound operands of a
  sound root.
-/
theorem faultAt?_eq_none_of_operands
    {e : Expr}
    {lefts rights : List Path}
    (hRoot : e.faultAt? m [] = none)
    (hLefts :
      ∀ path ∈ lefts, e.faultAt? m (.left :: path) = none)
    (hRights :
      ∀ path ∈ rights,
        e.faultAt? m (.right :: path) = none) :
    ∀ path ∈
        [] ::
          (lefts.map (.left :: ·) ++
            rights.map (.right :: ·)),
      e.faultAt? m path = none := by
  intro path hPath
  rcases List.mem_cons.mp hPath with hNil | hMem
  · subst hNil
    exact hRoot
  · rcases List.mem_append.mp hMem with hMem | hMem
    · rcases List.mem_map.mp hMem with ⟨inner, hInner, rfl⟩
      exact hLefts inner hInner
    · rcases List.mem_map.mp hMem with ⟨inner, hInner, rfl⟩
      exact hRights inner hInner

/- What stops in the operand of `NOT` stops there. -/
theorem StopsAt.unary_not
    (hStops : right.StopsAt m earlier path fault) :
    (unary .not right).StopsAt m
      ([] :: earlier.map (.right :: ·)) (.right :: path)
      fault := by
  have hFault :
      (right.emission m ++ .fixed ")").fault =
        some fault := by
    rw [Emission.append_of_fault_eq_some _ hStops.fault]
    exact hStops.fault
  refine ⟨⟨?_, ?_, hStops.first.at_path⟩, hFault, ?_, ?_⟩
  · rcases hStops.first.paths with ⟨later, hPaths⟩
    exact
      ⟨later.map (.right :: ·), by simp [paths, hPaths]⟩
  · exact
      faultAt?_eq_none_of_operands rfl
        (List.forall_mem_nil _)
        hStops.first.none_earlier
  · rw [List.filterMap_cons_none rfl, List.filterMap_map,
      emission,
      Emission.append_of_fault_eq_some _ hStops.fault]
    exact hStops.arguments
  · intro new
    apply Emission.marks_append_prefix_append
    rw [Emission.append_of_fault_eq_some _ hStops.fault]
    exact
      (hStops.marks new).trans
        (Emission.marks_prefix_append _ _)

/- What stops in the left operand stops there. -/
theorem StopsAt.binary_left
    {operator : Operator}
    (right : Expr)
    (hOperator : operator ≠ .not)
    (hStops : left.StopsAt m earlier path fault) :
    (binary operator left right).StopsAt m
      ([] :: earlier.map (.left :: ·)) (.left :: path)
      fault := by
  -- Nothing that stands after the left operand is reached.
  have hEmission :
      (binary operator left right).emission m =
        operator.opening ++ left.emission m := by
    rw [emission_binary m left right hOperator,
      Emission.append_of_fault_eq_some _ hStops.fault]
  refine ⟨⟨?_, ?_, hStops.first.at_path⟩, ?_, ?_, ?_⟩
  · rcases hStops.first.paths with ⟨later, hPaths⟩
    exact
      ⟨later.map (.left :: ·) ++
          right.paths.map (.right :: ·),
        by simp [paths, hPaths]⟩
  · simpa using
      faultAt?_eq_none_of_operands
        (e := binary operator left right)
        (if_neg hOperator) hStops.first.none_earlier
        (List.forall_mem_nil _)
  · rw [hEmission, Emission.fault_append,
      operator.fault_opening]
    exact hStops.fault
  · rw [hEmission,
      Emission.append_of_fault_eq_none _
        operator.fault_opening,
      Mark.arguments_append,
      operator.binds_opening.complete
        operator.fault_opening,
      List.filterMap_cons_none rfl, List.filterMap_map]
    exact hStops.arguments
  · intro new
    rw [hEmission, replace,
      emission_binary m _ right hOperator]
    apply Emission.marks_append_prefix_append
    exact
      (hStops.marks new).trans
        (Emission.marks_prefix_append _ _)

/-
  What stops in the right operand stops there, if the left
  operand has no fault.
-/
theorem StopsAt.binary_right
    {operator : Operator}
    (hOperator : operator ≠ .not)
    (hLeft : left.Completes m)
    (hStops : right.StopsAt m earlier path fault) :
    (binary operator left right).StopsAt m
      ([] ::
        (left.paths.map (.left :: ·) ++
          earlier.map (.right :: ·)))
      (.right :: path) fault := by
  have hEmission :
      (binary operator left right).emission m =
        operator.opening ++
          (left.emission m ++
            (operator.joint ++ right.emission m)) := by
    rw [emission_binary m left right hOperator,
      Emission.append_of_fault_eq_some _ hStops.fault]
  refine ⟨⟨?_, ?_, hStops.first.at_path⟩, ?_, ?_, ?_⟩
  · rcases hStops.first.paths with ⟨later, hPaths⟩
    exact
      ⟨later.map (.right :: ·), by simp [paths, hPaths]⟩
  · exact
      faultAt?_eq_none_of_operands (if_neg hOperator)
        hLeft.at_paths hStops.first.none_earlier
  · simp only [hEmission, Emission.fault_append,
      operator.fault_opening, hLeft.fault,
      operator.fault_joint]
    exact hStops.fault
  · have hLeftArguments :=
      (left.binds_emission m).complete hLeft.fault
    rw [hEmission,
      Emission.append_of_fault_eq_none _
        operator.fault_opening,
      Emission.append_of_fault_eq_none _ hLeft.fault,
      Emission.append_of_fault_eq_none _
        operator.fault_joint]
    simp only [Mark.arguments_append,
      operator.binds_opening.complete
        operator.fault_opening,
      operator.binds_joint.complete operator.fault_joint,
      hLeftArguments, left.arguments_eq_filterMap_paths,
      hStops.arguments, List.nil_append]
    rw [List.filterMap_cons_none rfl, List.filterMap_append,
      List.filterMap_map, List.filterMap_map]
    rfl
  · intro new
    rw [hEmission, replace,
      emission_binary m left _ hOperator]
    apply Emission.marks_append_prefix_append
    apply Emission.marks_append_prefix_append
    apply Emission.marks_append_prefix_append
    exact
      (hStops.marks new).trans
        (Emission.marks_prefix_append _ _)

/- An expression with a faulty root stops there. -/
theorem stopsAt_root
    {e : Expr}
    (hEmission : e.emission m = .ofFault fault)
    (hFault : e.ownFault? m = some fault)
    (hPaths : ∃ later, e.paths = [] :: later)
    (hRoot : e.subtree? [] = some e) :
    e.StopsAt m [] [] fault := by
  refine ⟨⟨hPaths, ?_, ?_⟩, ?_, ?_, ?_⟩
  · intro other hOther
    cases hOther
  · rw [faultAt?, hRoot]
    exact hFault
  · rw [hEmission]
    rfl
  · rw [hEmission]
    rfl
  · intro new
    rw [hEmission]
    exact List.nil_prefix

end Expr

end RecordQuery

------------------------------------------------------------
-- Completing Or Stopping
------------------------------------------------------------

namespace RecordQuery

namespace Expr

variable {m : Mapping}
variable {left right : Expr}

/- A field that the mapping has completes. -/
theorem completes_column
    {field column : String}
    (hColumn : m.column? field = some column) :
    (Expr.column field).Completes m := by
  constructor
  · simp [emission, Mapping.emission, Mapping.column,
      hColumn, Emission.ofMark]
  · intro path hPath
    have hRoot : path = [] := by simpa [paths] using hPath
    subst hRoot
    simp [faultAt?, subtree?, ownFault?, hColumn]

/- An argument completes. -/
theorem completes_argument
    (m : Mapping)
    (value : Argument) :
    (Expr.argument value).Completes m := by
  constructor
  · rfl
  · intro path hPath
    have hRoot : path = [] := by simpa [paths] using hPath
    subst hRoot
    rfl

/- The negation of what completes completes. -/
theorem Completes.unary_not
    (hRight : right.Completes m) :
    (unary .not right).Completes m := by
  constructor
  · simp [emission, Emission.fault_append, hRight.fault,
      Emission.fixed, Emission.ofMark]
  · exact
      faultAt?_eq_none_of_operands rfl
        (List.forall_mem_nil _) hRight.at_paths

/- Two operands complete under every operator but `NOT`. -/
theorem Completes.binary
    {operator : Operator}
    (hOperator : operator ≠ .not)
    (hLeft : left.Completes m)
    (hRight : right.Completes m) :
    (Expr.binary operator left right).Completes m := by
  constructor
  · simp [emission_binary m left right hOperator,
      Emission.fault_append, hLeft.fault, hRight.fault,
      operator.fault_opening, operator.fault_joint,
      operator.fault_closing]
  · exact
      faultAt?_eq_none_of_operands (if_neg hOperator)
        hLeft.at_paths hRight.at_paths

/-
  An emission completes, or it stops at the first node that
  has a fault.
-/
theorem completes_or_stops
    (m : Mapping)
    (e : Expr) :
    e.Completes m ∨
      ∃ earlier path fault,
        e.StopsAt m earlier path fault := by
  induction e with
  | column field =>
      cases hColumn : m.column? field with
      | none =>
          right
          refine ⟨[], [], .unknownField field, ?_⟩
          apply stopsAt_root
          · simp [emission, Mapping.emission,
              Mapping.column, hColumn]
          · simp [ownFault?, hColumn]
          · exact ⟨[], rfl⟩
          · rfl
      | some column =>
          left
          exact completes_column hColumn
  | argument value =>
      left
      exact completes_argument m value
  | unary operator right ih =>
      by_cases hOperator : operator = .not
      · subst hOperator
        rcases ih with
          hRight | ⟨earlier, path, fault, hStops⟩
        · left
          exact hRight.unary_not
        · right
          exact ⟨_, _, fault, hStops.unary_not⟩
      · right
        refine
          ⟨[], [], .malformedPredicate operator, ?_⟩
        apply stopsAt_root
        · cases operator with
          | not => exact absurd rfl hOperator
          | eq | and | or => rfl
        · exact if_neg hOperator
        · exact ⟨_, rfl⟩
        · rfl
  | binary operator left right leftIH rightIH =>
      by_cases hOperator : operator = .not
      · right
        subst hOperator
        refine ⟨[], [], .malformedPredicate .not, ?_⟩
        apply stopsAt_root
        · rfl
        · rfl
        · exact ⟨_, rfl⟩
        · rfl
      · rcases leftIH with
          hLeft | ⟨earlier, path, fault, hStops⟩
        · rcases rightIH with
            hRight | ⟨earlier, path, fault, hStops⟩
          · left
            exact hLeft.binary hOperator hRight
          · right
            exact
              ⟨_, _, fault,
                hStops.binary_right hOperator hLeft⟩
        · right
          exact
            ⟨_, _, fault,
              hStops.binary_left right hOperator⟩

/- Without a fault exactly the expressions complete. -/
theorem fault_emission_eq_none_iff
    (m : Mapping)
    (e : Expr) :
    (e.emission m).fault = none ↔
      ∀ path ∈ e.paths, e.faultAt? m path = none := by
  rcases e.completes_or_stops m with
    hCompletes | ⟨earlier, path, fault, hStops⟩
  · exact
      ⟨fun _ => hCompletes.at_paths,
        fun _ => hCompletes.fault⟩
  · constructor
    · intro hFault
      rw [hStops.fault] at hFault
      cases hFault
    · intro hNone
      rcases hStops.first.paths with ⟨later, hPaths⟩
      have hMem : path ∈ e.paths := by
        simp [hPaths]
      have hAt := hStops.first.at_path
      rw [hNone path hMem] at hAt
      cases hAt

/-
  Rendering succeeds on exactly the expressions without
  faulty nodes.  Else the fault is that of the first faulty
  node in pre-order, the arguments bound are those before
  that node, and what has been written is the beginning of
  what is written with any other subtree in its place.
-/
theorem render_stops_at_first_fault
    (d : Dialect)
    (m : Mapping)
    (draft : Draft)
    (e : Expr) :
    ((Fragment.progress d m draft (.expr e)).fault = none ↔
        ∀ path ∈ e.paths, e.faultAt? m path = none) ∧
      ∀ fault,
        (Fragment.progress d m draft (.expr e)).fault =
            some fault →
          ∃ earlier path,
            e.FirstFault m earlier path fault ∧
              (Fragment.progress d m draft
                    (.expr e)).draft.args =
                draft.args ++
                  earlier.filterMap e.argumentAt? ∧
              draft.Continues
                (Fragment.progress d m draft
                  (.expr e)).draft ∧
              ∀ new,
                (Fragment.progress d m draft
                  (.expr e)).draft.Continues
                    (Fragment.progress d m draft
                      (.expr (replace new e path))).draft := by
  have hProgress (other : Expr) :=
    Fragment.progress_eq d m draft
      (show Fragment.expr other ≠ .placeholder by simp)
  simp only [hProgress]
  refine ⟨e.fault_emission_eq_none_iff m, ?_⟩
  intro fault hFault
  rcases e.completes_or_stops m with
    hCompletes | ⟨earlier, path, stopping, hStops⟩
  · change (e.emission m).fault = some fault at hFault
    rw [hCompletes.fault] at hFault
    cases hFault
  · have hEq : stopping = fault :=
      Option.some.inj (hStops.fault.symm.trans hFault)
    subst hEq
    refine ⟨earlier, path, hStops.first, ?_, ?_, ?_⟩
    · exact congrArg (draft.args ++ ·) hStops.arguments
    · exact Draft.continues_extend d draft _
    · intro new
      rcases hStops.marks new with ⟨more, hMore⟩
      change
        (draft.extend d (e.emission m).marks).Continues
          (draft.extend d
            ((replace new e path).emission m).marks)
      rw [← hMore, Draft.extend_append]
      exact Draft.continues_extend d _ more

/- An unknown field hides the malformed node after it. -/
theorem render_stops_at_unknown_field :
    let m := Mapping.ofFields "people" [("age", "years")]
    let value : Argument := .scalar (.boolean true)
    let e : Expr :=
      .binary .and
        (.binary .eq (.column "age") (.argument value))
        (.binary .or (.column "missing")
          (.unary .eq (.argument value)))
    let result := Fragment.progress .postgres m .empty (.expr e)
    result =
        ⟨some (.unknownField "missing"),
          "(\"years\" = $1) AND ((", 1, [value]⟩ ∧
      ∃ earlier path,
        e.FirstFault m earlier path
            (.unknownField "missing") ∧
          result.draft.args =
            [] ++ earlier.filterMap e.argumentAt? := by
  intro m value e result
  have hResult :
      result =
        ⟨some (.unknownField "missing"),
          "(\"years\" = $1) AND ((", 1, [value]⟩ := by
    decide
  rcases
      (render_stops_at_first_fault .postgres m .empty e).2
        (.unknownField "missing")
        (congrArg Fragment.Progress.fault hResult) with
    ⟨earlier, path, hFirst, hArgs, _⟩
  exact ⟨hResult, earlier, path, hFirst, hArgs⟩

end Expr

end RecordQuery
