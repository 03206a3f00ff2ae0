import RecordQuery.Proofs.Session.Building
import RecordQuery.Proofs.Sql.Emission

/-
  All dialects print one and the same sequence of lexemes.

  Key theorems include:
    * `RecordQuery.Emission.progress_eq_texts`
    * `RecordQuery.Selection.map_args_compile`
    * `RecordQuery.Select.same_lexemes_in_all_dialects`

  A dialect decides how an identifier and a placeholder are
  spelled, and nothing else: not which of them there are,
  not what is bound, and not whether rendering fails.
-/

------------------------------------------------------------
-- Printing Lexemes
------------------------------------------------------------

namespace RecordQuery

/-
  Writing an emission adds the texts of lexemes that depend
  on the counter only, and binds what they hold.
-/
theorem Emission.progress_eq_texts
    (d : Dialect)
    (e : Emission)
    (text : String)
    (counter : UInt32)
    (args : List Argument) :
    e.progress d ⟨text, counter, args⟩ =
      let lexemes := Mark.number counter e.marks
      ⟨e.fault,
        ⟨text ++ Lexeme.texts d lexemes,
          counter +
            UInt32.ofNat (Lexeme.bindings lexemes).length,
          args ++ (Lexeme.bindings lexemes).map Prod.snd⟩⟩ := by
  unfold progress Draft.extend
  dsimp only
  rw [Mark.values_number, Mark.length_bindings_number]

end RecordQuery

------------------------------------------------------------
-- Statements In Two Dialects
------------------------------------------------------------

namespace RecordQuery

namespace Selection

/-
  Whether a selection compiles, and with which arguments, is
  told by its emission, in which no dialect takes part.
-/
theorem map_args_compile
    (s : Selection)
    (m : Mapping) :
    (s.compile m).map Statement.args =
      let e := Select.emission m ⟨s.table, s.condition⟩
      match e.fault with
      | none => .ok (Mark.arguments e.marks)
      | some fault => .error fault := by
  rw [compile_eq,
    Fragment.progress_eq s.database.dialect m .empty
      (by simp)]
  unfold Emission.progress Fragment.emission
  dsimp only
  cases (Select.emission m ⟨s.table, s.condition⟩).fault with
  | none => rfl
  | some fault => rfl

variable {s other : Selection}

/- Selections alike but for the dialect compile alike. -/
theorem map_args_compile_eq
    (hTable : s.table = other.table)
    (hCondition : s.condition = other.condition)
    (m : Mapping) :
    (s.compile m).map Statement.args =
      (other.compile m).map Statement.args := by
  rw [map_args_compile, map_args_compile, hTable, hCondition]

/- They are built with the same failure or arguments. -/
theorem map_args_build_eq
    (hRecord : s.record = other.record)
    (hTable : s.table = other.table)
    (hCondition : s.condition = other.condition)
    (r : Registry) :
    (s.build r).answer.map Statement.args =
      (other.build r).answer.map Statement.args := by
  have hTarget : s.target = other.target := by
    rw [target, target, hRecord]
  rw [map_answer_build, map_answer_build, hTarget]
  simp only [map_args_compile_eq hTable hCondition]

end Selection

namespace Select

/-
  For every statement, mapping and counter there is one list
  of lexemes that all dialects print: whatever the dialect,
  the texts of the lexemes are added to the draft, the
  placeholders among them are counted and their arguments
  bound, and there is the same fault or none.  The numbers
  of the placeholders are the next ones after the counter.
  So databases that differ in their dialect only build the
  same selections, with the same failures and arguments.
-/
theorem same_lexemes_in_all_dialects
    (m : Mapping)
    (counter : UInt32)
    (s : Select) :
    (∃ (lexemes : List Lexeme) (fault : Option Fault),
        (Lexeme.bindings lexemes).map Prod.fst =
            Counter.numbers counter
              (Lexeme.bindings lexemes).length ∧
          ∀ (d : Dialect) (text : String)
              (args : List Argument),
            Fragment.progress d m ⟨text, counter, args⟩
                (.select s) =
              ⟨fault,
                ⟨text ++ Lexeme.texts d lexemes,
                  counter +
                    UInt32.ofNat
                      (Lexeme.bindings lexemes).length,
                  args ++
                    (Lexeme.bindings lexemes).map
                      Prod.snd⟩⟩) ∧
      ∀ (registry : Nat) (d d' : Dialect) (record : Record)
          (r : Registry),
        let one : Selection :=
          ⟨⟨registry, d⟩, record, s.table, s.condition⟩
        let other : Selection :=
          ⟨⟨registry, d'⟩, record, s.table, s.condition⟩
        (one.build r).registry = (other.build r).registry ∧
          (one.build r).answer.map Statement.args =
            (other.build r).answer.map Statement.args := by
  constructor
  · refine
      ⟨Mark.number counter (s.emission m).marks,
        (s.emission m).fault, ?_, ?_⟩
    · rw [Mark.length_bindings_number]
      exact Mark.numbers_number counter (s.emission m).marks
    · intro d text args
      rw [Fragment.progress_eq d m _ (by simp)]
      exact
        (s.emission m).progress_eq_texts d text counter args
  · intro registry d d' record r one other
    constructor
    · exact
        (one.registry_build r).trans
          (other.registry_build r).symm
    · have hRecord : one.record = other.record := rfl
      have hTable : one.table = other.table := rfl
      have hCondition : one.condition = other.condition :=
        rfl
      exact
        Selection.map_args_build_eq hRecord hTable hCondition
          r

/-
  Up to the unknown field the same lexemes are printed in two
  dialects, and a database of the second dialect fails as one
  of the first does.
-/
theorem same_lexemes_in_all_dialects_up_to_fault :
    let m := Mapping.ofFields "people" [("age", "a\"`")]
    let value : Argument := .scalar (.boolean true)
    let s : Select :=
      ⟨none,
        some
          (.binary .and
            (.binary .eq (.column "age") (.argument value))
            (.column "missing"))⟩
    let record : Record :=
      ⟨"user", ⟨"User", [⟨"age", none⟩]⟩, none⟩
    let built (d : Dialect) : Outcome Statement :=
      Selection.build ⟨⟨0, d⟩, record, s.table, s.condition⟩
        .empty
    let missing : Fault := .unknownField "missing"
    let start : Draft := ⟨"", 7, []⟩
    (∃ lexemes : List Lexeme,
        Fragment.progress .generic m start (.select s) =
            ⟨some missing,
              Lexeme.texts .generic lexemes, 8, [value]⟩ ∧
          Fragment.progress .postgres m start (.select s) =
            ⟨some missing,
              Lexeme.texts .postgres lexemes, 8, [value]⟩ ∧
          Lexeme.texts .generic lexemes =
            "SELECT * FROM `people` WHERE " ++
              "(`a\"``` = ?) AND (") ∧
      (built .generic).answer.map Statement.args =
        Except.error (.ofFault missing) ∧
      (built .postgres).answer.map Statement.args =
        Except.error (.ofFault missing) := by
  intro m value s record built missing start
  rcases same_lexemes_in_all_dialects m 7 s with
    ⟨⟨lexemes, fault, _, hPrinted⟩, hBuilt⟩
  have hGeneric :
      Fragment.progress .generic m start (.select s) =
        ⟨some missing,
          "SELECT * FROM `people` WHERE (`a\"``` = ?) AND (",
          8, [value]⟩ := by
    decide
  -- The other dialect prints what the first run has left.
  have hLexemes := (hPrinted .generic "" []).symm.trans hGeneric
  simp only [Fragment.Progress.mk.injEq, Draft.mk.injEq,
    String.empty_append, List.nil_append] at hLexemes
  rcases hLexemes with ⟨rfl, hText, hCounter, hArgs⟩
  have hPostgres := hPrinted .postgres "" []
  rw [hCounter, String.empty_append, List.nil_append, hArgs]
    at hPostgres
  have hFails :
      (built .generic).answer.map Statement.args =
        Except.error (.ofFault missing) :=
    rfl
  have hAlike :=
    (hBuilt 0 .generic .postgres record .empty).2
  exact
    ⟨⟨lexemes, hText ▸ hGeneric, hPostgres, hText⟩, hFails,
      hAlike.symm.trans hFails⟩

end Select

end RecordQuery
