import RecordQuery.Mapping.Basic
import RecordQuery.Record.Directives
import RecordQuery.Record.Target
import RecordQuery.Text.SnakeCase

/-
  The mapping that a record gets at its registration.

  Key definitions include:
    * `RecordQuery.Member.column`
    * `RecordQuery.Record.table`
    * `RecordQuery.Record.mapping`

  A column is named by the tag of its field, and a table by
  the record itself; where they name none, the snake-case
  form of the field or the type is taken.  The empty text is
  a name like any other.
-/

------------------------------------------------------------
-- Derivation
------------------------------------------------------------

namespace RecordQuery

/- The column that a field is mapped to by itself. -/
def Member.column
    (m : Member) :
    Except Fault String :=
  match Directives.parse m.tag with
  | .error fault => .error fault
  | .ok directives =>
      .ok
        (directives[Directives.columnKey]?.getD
          (Text.snakeCase m.name))

namespace Record

/- Add the columns of fields in order of declaration. -/
def addColumns
    (columns : Columns) :
    List Member → Except Fault Columns
| [] => .ok columns
| member :: rest =>
    match member.column with
    | .error fault => .error fault
    | .ok column =>
        addColumns (columns.insert member.name column) rest

/- The table that a record is mapped to by itself. -/
def table
    (r : Record) :
    String :=
  r.tableName.getD (Text.snakeCase r.layout.name)

/- The mapping of a record, customized in order. -/
def mapping
    (r : Record)
    (changes : List Customization) :
    Except Fault Mapping :=
  match addColumns ∅ r.layout.members with
  | .error fault => .error fault
  | .ok columns =>
      Mapping.customizeAll ⟨r.table, columns⟩ changes

end Record

end RecordQuery
