import RecordQuery.Fault
import Std.Data.ExtTreeMap

/-
  Mappings of record types onto tables.

  Key definitions include:
    * `RecordQuery.Mapping`
    * `RecordQuery.Mapping.ofFields`
    * `RecordQuery.Mapping.column`
    * `RecordQuery.Customization`
    * `RecordQuery.Mapping.customize`

  Key theorems include:
    * `RecordQuery.Mapping.isSome_column?_customize`
-/

------------------------------------------------------------
-- Mappings
------------------------------------------------------------

namespace RecordQuery

/- Columns by the names of their fields. -/
abbrev Columns : Type :=
  Std.ExtTreeMap String String

/- The table of a record type and its columns. -/
structure Mapping where
  table : String
  columns : Columns
  deriving DecidableEq

namespace Mapping

/- A mapping of listed fields; a later field counts. -/
def ofFields
    (table : String)
    (fields : List (String × String)) :
    Mapping where
  table := table
  columns :=
    fields.foldl
      (fun columns field =>
        columns.insert field.1 field.2)
      ∅

/- The column of a field, if there is such a field. -/
def column?
    (m : Mapping)
    (field : String) :
    Option String :=
  m.columns[field]?

/- The column of a field that the mapping should have. -/
def column
    (m : Mapping)
    (field : String) :
    Except Fault String :=
  match m.column? field with
  | none => .error (.unknownField field)
  | some column => .ok column

end Mapping

end RecordQuery

------------------------------------------------------------
-- Customization
------------------------------------------------------------

namespace RecordQuery

/- A change to a mapping at its registration. -/
inductive Customization where
  | table (name : String)
  | column (field column : String)
  deriving DecidableEq, Repr

namespace Mapping

/- Apply one change; only existing fields get a column. -/
def customize
    (m : Mapping) :
    Customization → Except Fault Mapping
| .table name => .ok { m with table := name }
| .column field column =>
    match m.column? field with
    | none => .error (.unknownField field)
    | some _ =>
        .ok
          { m with
            columns := m.columns.insert field column }

/- Apply changes in order, up to the first fault. -/
def customizeAll
    (m : Mapping) :
    List Customization → Except Fault Mapping
| [] => .ok m
| change :: rest =>
    match m.customize change with
    | .error fault => .error fault
    | .ok changed => changed.customizeAll rest

/- Customization neither adds nor removes a field. -/
theorem isSome_column?_customize
    {m changed : Mapping}
    {change : Customization}
    (hChanged : m.customize change = .ok changed)
    (field : String) :
    (changed.column? field).isSome =
      (m.column? field).isSome := by
  cases change with
  | table name =>
      cases hChanged
      rfl
  | column target column =>
      unfold customize at hChanged
      dsimp only at hChanged
      split at hChanged
      · cases hChanged
      · rename_i old hOld
        cases hChanged
        unfold column? at hOld ⊢
        rw [Std.ExtTreeMap.getElem?_insert]
        split
        · rename_i hCompare
          have hEq := Std.LawfulEqCmp.eq_of_compare hCompare
          subst hEq
          simp [hOld]
        · rfl

end Mapping

end RecordQuery
