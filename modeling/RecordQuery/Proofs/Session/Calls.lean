import Mathlib.Data.List.Induction
import RecordQuery.Proofs.Session.Building
import RecordQuery.Proofs.Sql.Binding
import RecordQuery.Proofs.Sql.Conjunction

/-
  What a selection selects after changes to it.

  Key definitions include:
    * `RecordQuery.Call.lastTable`
    * `RecordQuery.Call.lastPredicates`

  Key theorems include:
    * `RecordQuery.Selection.applyAll_start`
    * `RecordQuery.Selection.compile_eq_clauses`
    * `RecordQuery.Selection.build_follows_last_calls`

  Of all changes to the table the last one counts, and so it
  does of all changes to the filter.  The statement consists
  of the one and the other.
-/

------------------------------------------------------------
-- Last Changes
------------------------------------------------------------

namespace RecordQuery

namespace Call

/- The table that a change selects from, if it does. -/
def table? : Call → Option String
| .fromTable table => some table
| .filter _ => none

/- The predicates that a change filters by, if it does. -/
def predicates? : Call → Option (List Predicate)
| .fromTable _ => none
| .filter predicates => some predicates

/- The last table of all; the empty text without one. -/
def lastTable
    (calls : List Call) :
    String :=
  (calls.filterMap table?).getLast?.getD ""

/- The last filter of all; the empty one without one. -/
def lastPredicates
    (calls : List Call) :
    List Predicate :=
  (calls.filterMap predicates?).getLast?.getD []

end Call

namespace Selection

/- The last table and the last filter make a selection. -/
theorem applyAll_start
    (database : Database)
    (record : Record)
    (calls : List Call) :
    (start database record).applyAll calls =
      ((start database record).fromTable
        (Call.lastTable calls)).filter
          (Call.lastPredicates calls) := by
  induction calls using List.reverseRecOn with
  | nil => rfl
  | append_singleton calls call ih =>
      have hLast :
          (start database record).applyAll (calls ++ [call]) =
            ((start database record).applyAll calls).apply
              call := by
        simp [applyAll]
      rw [hLast, ih]
      cases call with
      | fromTable table =>
          simp [Call.lastTable, Call.lastPredicates,
            Call.table?, Call.predicates?, apply, fromTable,
            filter]
      | filter predicates =>
          simp [Call.lastTable, Call.lastPredicates,
            Call.table?, Call.predicates?, apply, fromTable,
            filter]

/- Two changes of different kinds may be swapped. -/
theorem applyAll_swap
    (s : Selection)
    (before after : List Call)
    (table : String)
    (predicates : List Predicate) :
    s.applyAll
        (before ++
          .fromTable table :: .filter predicates :: after) =
      s.applyAll
        (before ++
          .filter predicates :: .fromTable table :: after) := by
  unfold applyAll
  rw [List.foldl_append, List.foldl_append]
  rfl

end Selection

end RecordQuery

------------------------------------------------------------
-- Clauses
------------------------------------------------------------

namespace RecordQuery

namespace Selection

/-
  A statement opens with its table.  The condition follows,
  which is written as if it were alone, and which is all
  that can fail.
-/
theorem compile_eq_clauses
    (s : Selection)
    (m : Mapping) :
    let d := s.database.dialect
    let opening :=
      "SELECT * FROM " ++ s.table.getD (d.quote m.table)
    s.compile m =
      match s.condition with
      | none => .ok ⟨opening ++ ";", []⟩
      | some condition =>
          let clause :=
            Fragment.progress d m .empty (.expr condition)
          match clause.fault with
          | none =>
              .ok
                ⟨opening ++ " WHERE " ++ clause.draft.text ++
                    ";",
                  clause.draft.args⟩
          | some fault => .error fault := by
  intro d opening
  have hOpening :
      (Draft.empty.extend d [.fixed "SELECT * FROM "]).extend
          d (Select.tableEmission m s.table).marks =
        ⟨opening, 0, []⟩ := by
    unfold opening
    rw [Draft.extend_fixed]
    cases s.table with
    | none => exact Draft.extend_identifier _ _
    | some table => exact Draft.extend_fixed _ _
  have hTable :
      (Select.tableEmission m s.table).fault = none := by
    cases s.table with
    | none => rfl
    | some table => rfl
  have hEmission :
      Select.emission m ⟨s.table, s.condition⟩ =
        let rest :=
          Select.conditionEmission m s.condition ++
            .fixed ";"
        ⟨[.fixed "SELECT * FROM "] ++
            (Select.tableEmission m s.table).marks ++
            rest.marks,
          rest.fault⟩ := by
    unfold Select.emission
    rw [Emission.append_of_fault_eq_none _ hTable]
    rfl
  rw [compile_eq,
    Fragment.progress_eq d m .empty (by simp)]
  unfold Emission.progress
  simp only [Fragment.emission, hEmission,
    Draft.extend_append, hOpening]
  cases s.condition with
  | none =>
      change
        (.ok
            ⟨(Draft.extend d ⟨opening, 0, []⟩
                [.fixed ";"]).text,
              _⟩ :
          Except Fault Statement) =
        _
      rw [Draft.extend_fixed]
      rfl
  | some condition =>
      have hClause :
          Fragment.progress d m .empty (.expr condition) =
            (condition.emission m).progress d .empty :=
        Fragment.progress_eq d m .empty (by simp)
      simp only [hClause, Emission.progress,
        Select.conditionEmission, Emission.fixed_append]
      cases (condition.emission m).fault with
      | none =>
          rw [Emission.append_of_fault_eq_none _ rfl]
          dsimp only [Emission.fixed, Emission.ofMark]
          rw [← List.singleton_append, Draft.extend_append,
            Draft.extend_append, Draft.extend_fixed,
            Draft.extend_fixed]
          simp [Draft.extend, Draft.empty]
      | some fault =>
          rw [Emission.append_of_fault_eq_some _ rfl]

/- With an entry, building answers these clauses. -/
theorem answer_build_eq_clauses
    (s : Selection)
    (r : Registry)
    {entry : Entry}
    (hFound : (r.lookup s.target).answer = .ok entry) :
    let d := s.database.dialect
    let m := entry.mapping
    let opening :=
      "SELECT * FROM " ++ s.table.getD (d.quote m.table)
    (s.build r).answer =
      match s.condition with
      | none => .ok ⟨opening ++ ";", []⟩
      | some condition =>
          let clause :=
            Fragment.progress d m .empty (.expr condition)
          match clause.fault with
          | none =>
              .ok
                ⟨opening ++ " WHERE " ++ clause.draft.text ++
                    ";",
                  clause.draft.args⟩
          | some fault => .error (.ofFault fault) := by
  intro d m opening
  rw [s.answer_build_of_lookup r hFound,
    compile_eq_clauses]
  cases s.condition with
  | none => rfl
  | some condition =>
      dsimp only
      cases
        (Fragment.progress s.database.dialect entry.mapping
          .empty (.expr condition)).fault with
      | none => rfl
      | some fault => rfl

end Selection

end RecordQuery

------------------------------------------------------------
-- Statements
------------------------------------------------------------

namespace RecordQuery

namespace Selection

/-
  After changes to a new selection these clauses are the
  last table and the conjunction of the last predicates.
-/
theorem answer_build_applyAll
    (database : Database)
    (record : Record)
    (calls : List Call)
    (r : Registry)
    {entry : Entry}
    (hFound :
      (r.lookup
          ((start database record).applyAll
            calls).target).answer =
        .ok entry) :
    let d := database.dialect
    let m := entry.mapping
    let table := Call.lastTable calls
    let opening :=
      "SELECT * FROM " ++
        if table = "" then d.quote m.table else table
    (((start database record).applyAll calls).build
        r).answer =
      match
        Predicate.conjunction (Call.lastPredicates calls) with
      | none => .ok ⟨opening ++ ";", []⟩
      | some whole =>
          let clause :=
            Fragment.progress d m .empty (.expr whole.expr)
          match clause.fault with
          | none =>
              .ok
                ⟨opening ++ " WHERE " ++ clause.draft.text ++
                    ";",
                  clause.draft.args⟩
          | some fault => .error (.ofFault fault) := by
  intro d m table opening
  rw [applyAll_start] at hFound ⊢
  have hOpening :
      "SELECT * FROM " ++
          (if table = "" then none else some table).getD
            (d.quote m.table) =
        opening := by
    unfold opening
    split
    · rfl
    · rfl
  rw [answer_build_eq_clauses _ r hFound]
  unfold filter fromTable
  dsimp only [start]
  rw [hOpening]
  cases Predicate.conjunction (Call.lastPredicates calls) with
  | none => rfl
  | some whole => rfl

/-
  Building follows the last table and the last predicates of
  any changes to a new selection, so that changes of the two
  kinds may be swapped, and several predicates select as the
  conjunction of them does.  If there is an entry for the
  record type, the statement consists of the table, of the
  condition if there are predicates, and of nothing else.
  The text of built predicates joins their own texts, each
  with the counter that those before it have left, and their
  arguments follow each other; it fails just when one of
  their fields is missing, with the first of these.
-/
theorem build_follows_last_calls
    (database : Database)
    (record : Record)
    (calls : List Call)
    (r : Registry) :
    let d := database.dialect
    let new := start database record
    let s := new.applyAll calls
    let table := Call.lastTable calls
    let ps := Call.lastPredicates calls
    (∀ others,
        Call.lastTable others = table →
          Call.lastPredicates others = ps →
            (new.applyAll others).build r = s.build r) ∧
      (∀ before after name filters,
        (new.applyAll
              (before ++
                .fromTable name :: .filter filters ::
                  after)).build r =
          (new.applyAll
              (before ++
                .filter filters :: .fromTable name ::
                  after)).build r) ∧
      (∀ whole,
        Predicate.conjunction ps = some whole →
          (new.applyAll
              [.fromTable table, .filter [whole]]).build r =
            s.build r) ∧
      ∀ entry,
        (r.lookup s.target).answer = .ok entry →
          let m := entry.mapping
          let opening :=
            "SELECT * FROM " ++
              if table = "" then d.quote m.table else table
          let answer := (s.build r).answer
          (ps = [] → answer = .ok ⟨opening ++ ";", []⟩) ∧
            (∀ whole,
              Predicate.conjunction ps = some whole →
                let clause :=
                  Fragment.progress d m .empty
                    (.expr whole.expr)
                answer =
                  match clause.fault with
                  | none =>
                      .ok
                        ⟨opening ++ " WHERE " ++
                            clause.draft.text ++ ";",
                          clause.draft.args⟩
                  | some fault => .error (.ofFault fault)) ∧
            ((∀ p ∈ ps, p.Built) →
              ps ≠ [] →
                let fields :=
                  ps.flatMap (fun p => p.expr.fields)
                let texts :=
                  (Predicate.drafts d m 0 ps).map Draft.text
                answer =
                  match m.missing? fields with
                  | none =>
                      .ok
                        ⟨opening ++ " WHERE " ++
                            Predicate.joinTexts texts ++ ";",
                          ps.flatMap
                            (fun p => p.expr.arguments)⟩
                  | some field =>
                      .error
                        (.ofFault (.unknownField field))) := by
  intro d new s table ps
  have hStart (others : List Call) :
      new.applyAll others = _ :=
    applyAll_start database record others
  refine ⟨?_, ?_, ?_, ?_⟩
  · intro others hTable hPredicates
    unfold s
    rw [hStart, hStart calls, hTable, hPredicates]
  · intro before after name filters
    rw [applyAll_swap]
  · intro whole hWhole
    unfold s
    rw [hStart calls]
    change
      ((new.fromTable table).filter [whole]).build r =
        ((new.fromTable table).filter ps).build r
    unfold filter
    rw [hWhole]
    rfl
  · intro entry hFound m opening answer
    have hAnswer :=
      answer_build_applyAll database record calls r hFound
    have hClause :
        ∀ whole,
          Predicate.conjunction ps = some whole →
            let clause :=
              Fragment.progress d m .empty
                (.expr whole.expr)
            answer =
              match clause.fault with
              | none =>
                  .ok
                    ⟨opening ++ " WHERE " ++
                        clause.draft.text ++ ";",
                      clause.draft.args⟩
              | some fault => .error (.ofFault fault) := by
      intro whole hWhole
      rw [hWhole] at hAnswer
      exact hAnswer
    refine ⟨?_, hClause, ?_⟩
    · intro hNil
      have hNone :
          Predicate.conjunction
              (Call.lastPredicates calls) =
            none :=
        congrArg Predicate.conjunction hNil
      rw [hNone] at hAnswer
      exact hAnswer
    · intro hBuilt hNe fields texts
      rcases List.exists_cons_of_ne_nil hNe with
        ⟨first, rest, hCons⟩
      have hWhole :
          Predicate.conjunction ps =
            some (rest.foldl Predicate.and first) := by
        rw [hCons]
        rfl
      rcases
          Predicate.Built.progress_conjunction d m 0 hBuilt
            hWhole with
        ⟨hFault, hDraft⟩
      rw [hClause _ hWhole]
      have hEmpty : Draft.empty = ⟨"", 0, []⟩ := rfl
      rw [hEmpty, hFault]
      cases hMissing : m.missing? fields with
      | none =>
          rcases hDraft hMissing with ⟨hText, hArgs⟩
          rw [hText, hArgs]
          rfl
      | some field => rfl

/-
  Tables and filters that were replaced leave no trace, and
  the placeholders count on from one predicate to the next.
-/
theorem build_follows_last_calls_only :
    let record : Record :=
      ⟨"user", ⟨"User", [⟨"id", none⟩, ⟨"age", none⟩]⟩, none⟩
    let young := (Predicate.eq "age" true).not
    let first := Predicate.eq "id" false
    let either := first.or (Predicate.eq "age" false)
    let calls : List Call :=
      [.filter [Predicate.eq "missing" true],
        .fromTable "people", .filter [first, young, either],
        .fromTable ""]
    let fewer : List Call :=
      [.fromTable "", .filter [first, young, either]]
    let joined : List Call :=
      [.fromTable "", .filter [(first.and young).and either]]
    let new := start ⟨0, .postgres⟩ record
    let s := new.applyAll calls
    let all := new.applyAll (calls ++ [.filter []])
    let value (b : Bool) : Argument := .scalar (.boolean b)
    (s.build .empty).answer =
        .ok
          ⟨"SELECT * FROM \"user\" WHERE " ++
              "((\"id\" = $1) AND ( NOT (\"age\" = $2))) " ++
              "AND ((\"id\" = $3) OR (\"age\" = $4));",
            [value false, value true, value false,
              value false]⟩ ∧
      (new.applyAll fewer).build .empty = s.build .empty ∧
      (new.applyAll joined).build .empty = s.build .empty ∧
      (all.build .empty).answer =
        .ok ⟨"SELECT * FROM \"user\";", []⟩ := by
  intro record young first either calls fewer joined new s
    all value
  let entry : Entry :=
    ⟨0, .ofFields "user" [("id", "id"), ("age", "age")]⟩
  have hFound :
      (Registry.empty.lookup s.target).answer = .ok entry := by
    decide
  have hBuilt :
      ∀ p ∈ Call.lastPredicates calls, p.Built := by
    change ∀ p ∈ [first, young, either], p.Built
    simp only [List.forall_mem_cons]
    have hFirst : first.Built := .eq "id" false
    exact
      ⟨hFirst, .not (.eq "age" true),
        .or hFirst (.eq "age" false), List.forall_mem_nil _⟩
  rcases
      build_follows_last_calls ⟨0, .postgres⟩ record calls
        .empty with
    ⟨hOthers, _, hWhole, hEntry⟩
  rcases hEntry entry hFound with ⟨_, _, hJoined⟩
  have hFoundAll :
      (Registry.empty.lookup all.target).answer =
        .ok entry := by
    decide
  rcases
      build_follows_last_calls ⟨0, .postgres⟩ record
        (calls ++ [.filter []]) .empty with
    ⟨_, _, _, hEntryAll⟩
  have hAll := (hEntryAll entry hFoundAll).1
  have hFewer := hOthers fewer rfl rfl
  have hOne := hWhole ((first.and young).and either) rfl
  refine ⟨?_, hFewer, hOne, ?_⟩
  · rw [hJoined hBuilt (by decide)]
    decide
  · rw [hAll rfl]
    decide

end Selection

end RecordQuery
