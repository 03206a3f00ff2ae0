import RecordQuery.Mapping.Basic
import RecordQuery.Sql.Dialect
import RecordQuery.Sql.Draft

/-
  Rendering of filters and statements.

  Key definitions include:
    * `RecordQuery.Expr.render`
    * `RecordQuery.Select.render`
    * `RecordQuery.Fragment`
    * `RecordQuery.Fragment.render`
    * `RecordQuery.Fragment.renderAll`

  Operands of `AND` and `OR` and of `NOT` stand in
  parentheses.  An operator with the wrong number of
  operands is a fault before any of them is rendered.
-/

------------------------------------------------------------
-- Parts Of Filters
------------------------------------------------------------

namespace RecordQuery

namespace Dialect

/- Write a quoted identifier. -/
def writeIdentifier
    (d : Dialect)
    (name : String) :
    Writing Unit :=
  Writing.append (d.quote name)

/- Write the column of a field. -/
def writeColumn
    (d : Dialect)
    (m : Mapping)
    (field : String) :
    Writing Unit :=
  match m.column field with
  | .error fault => throw fault
  | .ok column => d.writeIdentifier column

/- Write a new placeholder and bind an argument to it. -/
def writeArgument
    (d : Dialect)
    (value : Argument) :
    Writing Unit := do
  let number ← Writing.advance
  Writing.append (d.placeholder number)
  Writing.bindArgument value

/- Write the placeholder of the latest argument again. -/
def writePlaceholder
    (d : Dialect) :
    Writing Unit := do
  let draft ← get
  Writing.append (d.placeholder draft.counter)

end Dialect

end RecordQuery

------------------------------------------------------------
-- Filters
------------------------------------------------------------

namespace RecordQuery

/- Write an expression with the columns of a mapping. -/
def Expr.render
    (d : Dialect)
    (m : Mapping) :
    Expr → Writing Unit
| .column field => d.writeColumn m field
| .argument value => d.writeArgument value
| .unary .not right => do
    Writing.append (" " ++ Operator.not.text ++ " (")
    right.render d m
    Writing.append ")"
| .unary operator _ => throw (.malformedPredicate operator)
| .binary .eq left right => do
    left.render d m
    Writing.append (" " ++ Operator.eq.text ++ " ")
    right.render d m
| .binary .not _ _ => throw (.malformedPredicate .not)
| .binary operator left right => do
    Writing.append "("
    left.render d m
    Writing.append (") " ++ operator.text ++ " (")
    right.render d m
    Writing.append ")"

end RecordQuery

------------------------------------------------------------
-- Statements
------------------------------------------------------------

namespace RecordQuery

/-
  A query for all columns, of a table that is written as it
  is or else of the mapping's table, with a condition or
  without.
-/
structure Select where
  table : Option String
  condition : Option Expr
  deriving DecidableEq, Repr

namespace Select

/- Write what is selected from. -/
def renderTable
    (d : Dialect)
    (m : Mapping) :
    Option String → Writing Unit
| none => d.writeIdentifier m.table
| some table => Writing.append table

/- Write the condition, if there is one. -/
def renderCondition
    (d : Dialect)
    (m : Mapping) :
    Option Expr → Writing Unit
| none => pure ()
| some condition => do
    Writing.append " WHERE "
    condition.render d m

/- Write the whole statement. -/
def render
    (d : Dialect)
    (m : Mapping)
    (s : Select) :
    Writing Unit := do
  Writing.append "SELECT * FROM "
  renderTable d m s.table
  renderCondition d m s.condition
  Writing.append ";"

end Select

end RecordQuery

------------------------------------------------------------
-- Fragments
------------------------------------------------------------

namespace RecordQuery

/- What can be written to a draft one after the other. -/
inductive Fragment where
  | expr (value : Expr)
  | column (field : String)
  | argument (value : Argument)
  | identifier (name : String)
  | table
  | placeholder
  | substituted (text : String) (search : Char)
      (replacement : String)
  | select (value : Select)
  deriving DecidableEq, Repr

namespace Fragment

/- Write one fragment. -/
def render
    (d : Dialect)
    (m : Mapping) :
    Fragment → Writing Unit
| .expr value => value.render d m
| .column field => d.writeColumn m field
| .argument value => d.writeArgument value
| .identifier name => d.writeIdentifier name
| .table => d.writeIdentifier m.table
| .placeholder => d.writePlaceholder
| .substituted text search replacement =>
    Writing.appendSubstituted search replacement text
| .select value => value.render d m

/- How far a draft has come after one more fragment. -/
structure Progress where
  fault : Option Fault
  draft : Draft
  deriving DecidableEq, Repr

/- Write one fragment to a draft. -/
def progress
    (d : Dialect)
    (m : Mapping)
    (draft : Draft)
    (fragment : Fragment) :
    Progress :=
  match (fragment.render d m).run draft with
  | .ok _ after => ⟨none, after⟩
  | .error fault after => ⟨some fault, after⟩

/-
  Write fragments one after the other.  A fault ends its own
  fragment only.
-/
def renderAll
    (d : Dialect)
    (m : Mapping)
    (draft : Draft) :
    List Fragment → List Progress
| [] => []
| fragment :: rest =>
    let step := progress d m draft fragment
    step :: renderAll d m step.draft rest

end Fragment

end RecordQuery
