import RecordQuery.Registry
import RecordQuery.Sql.Rendering

/-
  Databases and the selections built on them.

  Key definitions include:
    * `RecordQuery.Database`
    * `RecordQuery.Selection`
    * `RecordQuery.Selection.fromTable`
    * `RecordQuery.Selection.filter`
    * `RecordQuery.Selection.build`

  A selection knows its record type through one instance.
  Its mapping is looked up anew whenever it is built.
-/

------------------------------------------------------------
-- Databases And Selections
------------------------------------------------------------

namespace RecordQuery

/- The index of a shared registry, and a dialect. -/
structure Database where
  registry : Nat
  dialect : Dialect

/- A query for the records of one type, being put together. -/
structure Selection where
  database : Database
  record : Record
  table : Option String
  condition : Option Expr

/- A change to a selection. -/
inductive Call where
  | fromTable (table : String)
  | filter (predicates : List Predicate)
  deriving DecidableEq, Repr

namespace Selection

/- A selection of all records of a type. -/
def start
    (database : Database)
    (record : Record) :
    Selection where
  database := database
  record := record
  table := none
  condition := none

/- Select from a table; the empty text undoes this. -/
def fromTable
    (s : Selection)
    (table : String) :
    Selection :=
  { s with
    table := if table = "" then none else some table }

/- Select by all of the given predicates only. -/
def filter
    (s : Selection)
    (predicates : List Predicate) :
    Selection :=
  { s with
    condition :=
      (Predicate.conjunction predicates).map Predicate.expr }

/- Apply one change. -/
def apply
    (s : Selection) :
    Call → Selection
| .fromTable table => s.fromTable table
| .filter predicates => s.filter predicates

/- Apply changes in order. -/
def applyAll
    (s : Selection)
    (calls : List Call) :
    Selection :=
  calls.foldl apply s

end Selection

end RecordQuery

------------------------------------------------------------
-- Building
------------------------------------------------------------

namespace RecordQuery

/- The text of a statement and its arguments in order. -/
structure Statement where
  sql : String
  args : List Argument
  deriving DecidableEq, Repr

namespace Selection

/- The statement of a selection under a mapping. -/
def compile
    (s : Selection)
    (m : Mapping) :
    Except Fault Statement :=
  let select : Select := ⟨s.table, s.condition⟩
  match (select.render s.database.dialect m).run .empty with
  | .ok _ draft => .ok ⟨draft.text, draft.args⟩
  | .error fault _ => .error fault

/-
  Look up the mapping of the record type in a registry, then
  render the statement.
-/
def build
    (s : Selection)
    (r : Registry) :
    Outcome Statement :=
  let found :=
    r.lookup (.pointer .borrowed (.record s.record))
  match found.answer with
  | .error failure =>
      { registry := found.registry
        answer := .error failure
        events := found.events }
  | .ok entry =>
      match s.compile entry.mapping with
      | .error fault =>
          { registry := found.registry
            answer := .error (.ofFault fault)
            events :=
              found.events ++ [.failed (.ofFault fault)] }
      | .ok statement =>
          { registry := found.registry
            answer := .ok statement
            events :=
              found.events ++
                [.built statement.sql statement.args] }

end Selection

end RecordQuery
