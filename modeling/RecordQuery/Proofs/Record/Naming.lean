import RecordQuery.Proofs.Record.Derivation
import RecordQuery.Proofs.Record.Grammar

/-
  The names in the mapping of a record.

  Key definitions include:
    * `RecordQuery.Member.tagColumn?`
    * `RecordQuery.Layout.member?`
    * `RecordQuery.Customization.Agree`
    * `RecordQuery.Record.finalTable`
    * `RecordQuery.Record.finalColumn?`

  Key theorems include:
    * `RecordQuery.Record.getElem?_addColumns`
    * `RecordQuery.Mapping.column?_customizeAll`
    * `RecordQuery.Record.names_of_mapping`
    * `RecordQuery.Record.mapping_of_agree`

  At each layer the last choice counts: of customizations,
  of fields with one name, and of directives in a tag.  An
  empty name is a choice like any other, so that a layer is
  only passed where nothing was chosen.
-/

------------------------------------------------------------
-- Fields
------------------------------------------------------------

namespace RecordQuery

namespace Member

/- The column that the tag of a field names, if it does. -/
def tagColumn?
    (m : Member) :
    Option String :=
  lastChoice? (Directives.valueOf? Directives.columnKey)
    m.segments

/- The column of a field to which nothing else is said. -/
def ownColumn
    (m : Member) :
    String :=
  m.tagColumn?.getD (Text.snakeCase m.name)

/- A tag that is read gives the field its own column. -/
theorem eq_ownColumn_of_column
    {m : Member}
    {column : String}
    (hColumn : m.column = .ok column) :
    column = m.ownColumn := by
  unfold Member.column at hColumn
  cases hParse : Directives.parse m.tag with
  | error fault =>
      rw [hParse] at hColumn
      cases hColumn
  | ok directives =>
      rw [hParse] at hColumn
      cases hColumn
      unfold ownColumn tagColumn? segments
      cases hTag : m.tag with
      | none =>
          rw [hTag] at hParse
          cases hParse
          rfl
      | some tag =>
          rw [hTag] at hParse
          rw [Directives.getElem?_parse hParse]

end Member

/- A field, if it has the name. -/
def Member.named?
    (field : String)
    (m : Member) :
    Option Member :=
  if m.name = field then some m else none

namespace Layout

/- The last field of a layout with a name. -/
def member?
    (l : Layout)
    (field : String) :
    Option Member :=
  lastChoice? (Member.named? field) l.members

/- The field that is found has the name. -/
theorem name_of_member?
    {l : Layout}
    {field : String}
    {m : Member}
    (hMember : l.member? field = some m) :
    m.name = field := by
  rcases lastChoice?_eq_some_iff.mp hMember with
    ⟨_, found, _, _, hNamed, _⟩
  unfold Member.named? at hNamed
  split at hNamed
  · rename_i hName
    cases hNamed
    exact hName
  · cases hNamed

/- Only the names of fields are found. -/
theorem member?_eq_none_iff
    (l : Layout)
    (field : String) :
    l.member? field = none ↔
      field ∉ l.members.map Member.name := by
  unfold member?
  rw [lastChoice?_eq_none_iff]
  simp [Member.named?]

end Layout

namespace Record

/-
  After fields have been added, a column is that of the last
  field with its name, or it was there before.
-/
theorem getElem?_addColumns
    {columns after : Columns}
    {members : List Member}
    (hAdded : addColumns columns members = .ok after)
    (field : String) :
    after[field]? =
      ((lastChoice? (Member.named? field) members).map
          Member.ownColumn).or
        columns[field]? := by
  induction members generalizing columns with
  | nil =>
      cases hAdded
      rfl
  | cons member rest ih =>
      rw [addColumns] at hAdded
      cases hColumn : member.column with
      | error fault =>
          rw [hColumn] at hAdded
          cases hAdded
      | ok column =>
          rw [hColumn] at hAdded
          rw [ih hAdded, Std.ExtTreeMap.getElem?_insert,
            Member.eq_ownColumn_of_column hColumn,
            lastChoice?_cons, Option.map_or, Option.or_assoc]
          simp only [Std.LawfulEqCmp.compare_eq_iff_eq]
          unfold Member.named?
          by_cases hName : member.name = field
          · rw [if_pos hName, if_pos hName]
            rfl
          · rw [if_neg hName, if_neg hName]
            rfl

end Record

end RecordQuery

------------------------------------------------------------
-- Customizations
------------------------------------------------------------

namespace RecordQuery

namespace Customization

/- The table that a change names, if it does. -/
def tableName? : Customization → Option String
| .table name => some name
| .column _ _ => none

/- The column that a change gives to a field, if it does. -/
def columnOf?
    (field : String) :
    Customization → Option String
| table _ => none
| column own name => if own = field then some name else none

/- A change gives a column to its own field only. -/
theorem columnOf?_eq_none_iff
    (change : Customization)
    (field : String) :
    change.columnOf? field = none ↔
      change.field? ≠ some field := by
  cases change with
  | table name => simp [columnOf?, field?]
  | column own name => simp [columnOf?, field?]

/- Changes to a table are those to no field. -/
theorem tableName?_eq_none_iff
    (change : Customization) :
    change.tableName? = none ↔ change.field? ≠ none := by
  cases change with
  | table name => simp [tableName?, field?]
  | column own name => simp [tableName?, field?]

/-
  The last choices of changes agree, for the table and for
  every field.
-/
structure Agree
    (changes others : List Customization) :
    Prop where
  table :
    lastChoice? tableName? changes =
      lastChoice? tableName? others
  column :
    ∀ field,
      lastChoice? (columnOf? field) changes =
        lastChoice? (columnOf? field) others

/- Changes to different fields or the table may be swapped. -/
theorem agree_swap
    {a b : Customization}
    (before after : List Customization)
    (hField : a.field? ≠ b.field?) :
    Agree (before ++ a :: b :: after)
      (before ++ b :: a :: after) where
  table := by
    apply lastChoice?_swap
    rw [tableName?_eq_none_iff, tableName?_eq_none_iff,
      ← Classical.not_and_iff_not_or_not]
    rintro ⟨hLeft, hRight⟩
    exact hField (hLeft.trans hRight.symm)
  column field := by
    apply lastChoice?_swap
    rw [columnOf?_eq_none_iff, columnOf?_eq_none_iff,
      ← Classical.not_and_iff_not_or_not]
    rintro ⟨hLeft, hRight⟩
    exact hField (hLeft.trans hRight.symm)

end Customization

namespace Mapping

open Customization

/- Mappings with the same names are the same. -/
theorem eq_of_column?_eq
    {m other : Mapping}
    (hTable : m.table = other.table)
    (hColumns :
      ∀ field, m.column? field = other.column? field) :
    m = other := by
  rcases m with ⟨table, columns⟩
  rcases other with ⟨otherTable, otherColumns⟩
  have hEq : columns = otherColumns :=
    Std.ExtTreeMap.ext_getElem? hColumns
  dsimp only at hTable
  rw [hTable, hEq]

/- A change replaces the table that it names. -/
theorem table_customize
    {m changed : Mapping}
    {change : Customization}
    (hChanged : m.customize change = .ok changed) :
    changed.table = change.tableName?.getD m.table := by
  cases change with
  | table name =>
      cases hChanged
      rfl
  | column field column =>
      unfold customize at hChanged
      dsimp only at hChanged
      split at hChanged
      · cases hChanged
      · cases hChanged
        rfl

/- A change replaces the column of the field that it names. -/
theorem column?_customize
    {m changed : Mapping}
    {change : Customization}
    (hChanged : m.customize change = .ok changed)
    (field : String) :
    changed.column? field =
      (m.column? field).map
        (fun column =>
          (change.columnOf? field).getD column) := by
  cases change with
  | table name =>
      cases hChanged
      simp [columnOf?, column?]
  | column own column =>
      unfold customize at hChanged
      dsimp only at hChanged
      split at hChanged
      · cases hChanged
      · rename_i old hOld
        cases hChanged
        unfold column? at hOld ⊢
        rw [Std.ExtTreeMap.getElem?_insert]
        simp only [Std.LawfulEqCmp.compare_eq_iff_eq]
        by_cases hOwn : own = field
        · subst hOwn
          simp [columnOf?, hOld]
        · simp [columnOf?, hOwn]

/- After all changes the table is the last one named. -/
theorem table_customizeAll
    {m changed : Mapping}
    {changes : List Customization}
    (hChanged : m.customizeAll changes = .ok changed) :
    changed.table =
      (lastChoice? tableName? changes).getD m.table := by
  induction changes generalizing m with
  | nil =>
      cases hChanged
      rfl
  | cons change rest ih =>
      rw [customizeAll] at hChanged
      cases hFirst : m.customize change with
      | error fault =>
          rw [hFirst] at hChanged
          cases hChanged
      | ok first =>
          rw [hFirst] at hChanged
          rw [ih hChanged, table_customize hFirst,
            lastChoice?_cons, Option.getD_or]

/- Every field has the last column that it was given. -/
theorem column?_customizeAll
    {m changed : Mapping}
    {changes : List Customization}
    (hChanged : m.customizeAll changes = .ok changed)
    (field : String) :
    changed.column? field =
      (m.column? field).map
        (fun column =>
          (lastChoice? (columnOf? field) changes).getD
            column) := by
  induction changes generalizing m with
  | nil =>
      cases hChanged
      simp [lastChoice?]
  | cons change rest ih =>
      rw [customizeAll] at hChanged
      cases hFirst : m.customize change with
      | error fault =>
          rw [hFirst] at hChanged
          cases hChanged
      | ok first =>
          rw [hFirst] at hChanged
          rw [ih hChanged, column?_customize hFirst,
            Option.map_map]
          congr 1
          funext column
          rw [Function.comp_apply, lastChoice?_cons,
            Option.getD_or]

end Mapping

end RecordQuery

------------------------------------------------------------
-- Records
------------------------------------------------------------

namespace RecordQuery

namespace Record

open Customization

/-
  The table of a record: the last one that the changes name,
  or else its own, or else one after its type.
-/
def finalTable
    (r : Record)
    (changes : List Customization) :
    String :=
  (lastChoice? tableName? changes).getD
    (r.tableName.getD (Text.snakeCase r.layout.name))

/-
  The column of a field, if the record has it: the last one
  that the changes give to the field, or else the one in the
  tag of the last field with the name, or else one after the
  field.
-/
def finalColumn?
    (r : Record)
    (changes : List Customization)
    (field : String) :
    Option String :=
  (r.layout.member? field).map
    (fun member =>
      (lastChoice? (columnOf? field) changes).getD
        (member.tagColumn?.getD (Text.snakeCase field)))

variable {r : Record}
variable {changes : List Customization}
variable {m : Mapping}

/- The names in the mapping of a record. -/
theorem names_of_mapping
    (hMapping : r.mapping changes = .ok m) :
    m.table = r.finalTable changes ∧
      ∀ field,
        m.column? field = r.finalColumn? changes field := by
  unfold mapping at hMapping
  cases hAdded : addColumns ∅ r.layout.members with
  | error fault =>
      rw [hAdded] at hMapping
      cases hMapping
  | ok columns =>
      rw [hAdded] at hMapping
      refine ⟨Mapping.table_customizeAll hMapping, ?_⟩
      intro field
      rw [Mapping.column?_customizeAll hMapping,
        Mapping.column?, getElem?_addColumns hAdded,
        Std.ExtTreeMap.getElem?_empty, Option.or_none]
      unfold finalColumn?
      change
        Option.map _
            (Option.map Member.ownColumn
              (r.layout.member? field)) =
          _
      cases hMember : r.layout.member? field with
      | none => rfl
      | some member =>
          simp [Member.ownColumn,
            Layout.name_of_member? hMember]

/- The fields of a mapping are those of the layout. -/
theorem mem_columns_of_mapping
    (hMapping : r.mapping changes = .ok m)
    (field : String) :
    field ∈ m.columns ↔
      field ∈ r.layout.members.map Member.name := by
  have hColumn := (names_of_mapping hMapping).2 field
  rw [Std.ExtTreeMap.mem_iff_isSome_getElem?]
  change (m.column? field).isSome = true ↔ _
  rw [hColumn, finalColumn?, Option.isSome_map,
    ← Option.ne_none_iff_isSome, Ne,
    Layout.member?_eq_none_iff, Classical.not_not]

/- The fields of all column changes have to be there. -/
theorem unknown?_eq_none_iff
    (l : Layout)
    (changes : List Customization) :
    l.unknown? changes = none ↔
      ∀ field,
        lastChoice? (columnOf? field) changes ≠ none →
          field ∈ l.members.map Member.name := by
  have hChanged (field : String) :
      lastChoice? (columnOf? field) changes ≠ none ↔
        field ∈ changes.filterMap Customization.field? := by
    rw [Ne, lastChoice?_eq_none_iff, List.mem_filterMap]
    simp only [columnOf?_eq_none_iff, Classical.not_forall,
      Ne, Classical.not_not, exists_prop]
  unfold Layout.unknown?
  rw [List.find?_eq_none]
  simp only [hChanged, Bool.not_eq_true, Bool.not_eq_false',
    List.contains_iff_mem]

/- A mapping needs tags of directives and known fields. -/
theorem exists_mapping_iff
    (r : Record)
    (changes : List Customization) :
    (∃ m, r.mapping changes = .ok m) ↔
      r.layout.malformed? = none ∧
        r.layout.unknown? changes = none := by
  constructor
  · rintro ⟨m, hMapping⟩
    cases hMalformed : r.layout.malformed? with
    | some text =>
        rw [mapping_of_malformed hMalformed] at hMapping
        cases hMapping
    | none =>
        cases hUnknown : r.layout.unknown? changes with
        | some field =>
            rw [mapping_of_unknown hMalformed hUnknown]
              at hMapping
            cases hMapping
        | none => exact ⟨rfl, rfl⟩
  · rintro ⟨hMalformed, hUnknown⟩
    exact exists_mapping hMalformed hUnknown

/- Changes whose last choices agree make the same mapping. -/
theorem mapping_of_agree
    {others : List Customization}
    (hMapping : r.mapping changes = .ok m)
    (hAgree : Agree changes others) :
    r.mapping others = .ok m := by
  rcases (exists_mapping_iff r changes).mp ⟨m, hMapping⟩ with
    ⟨hMalformed, hUnknown⟩
  have hOthers : r.layout.unknown? others = none := by
    rw [unknown?_eq_none_iff] at hUnknown ⊢
    intro field hSome
    exact hUnknown field (hAgree.column field ▸ hSome)
  rcases exists_mapping hMalformed hOthers with
    ⟨other, hOther⟩
  rcases names_of_mapping hMapping with ⟨hTable, hColumns⟩
  rcases names_of_mapping hOther with ⟨hTable', hColumns'⟩
  rw [hOther]
  apply congrArg Except.ok
  apply Mapping.eq_of_column?_eq
  · rw [hTable, hTable', finalTable, finalTable, hAgree.table]
  · intro field
    rw [hColumns, hColumns', finalColumn?, finalColumn?,
      hAgree.column field]

end Record

end RecordQuery
