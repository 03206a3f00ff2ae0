import RecordQuery.Mapping.Derivation
import RecordQuery.Proofs.Record.Tag

/-
  When a record has a mapping, and which fault it has if
  not.

  Key definitions include:
    * `RecordQuery.Mapping.unknown?`
    * `RecordQuery.Layout.unknown?`

  Key theorems include:
    * `RecordQuery.Record.mapping_of_malformed`
    * `RecordQuery.Record.mapping_of_unknown`
    * `RecordQuery.Record.exists_mapping`

  All tags are read before the first customization.  After
  that, only a column for a missing field is a fault, and
  customizations neither add nor remove a field.
-/

------------------------------------------------------------
-- Columns Of Fields
------------------------------------------------------------

namespace RecordQuery

namespace Record

variable {columns : Columns}
variable {members : List Member}

/- The first segment that is no directive is the fault. -/
theorem addColumns_of_malformed
    {text : String}
    (hMalformed :
      members.findSome? Member.malformed? = some text) :
    addColumns columns members =
      .error (.invalidTag text) := by
  induction members generalizing columns with
  | nil => cases hMalformed
  | cons member rest ih =>
      rw [List.findSome?_cons] at hMalformed
      cases hFirst : member.malformed? with
      | none =>
          rw [hFirst] at hMalformed
          rcases Member.exists_parse hFirst with
            ⟨directives, hParse⟩
          rw [addColumns, Member.column, hParse]
          exact ih hMalformed
      | some first =>
          rw [hFirst] at hMalformed
          cases hMalformed
          rw [addColumns, Member.column,
            Member.parse_of_malformed?_eq_some hFirst]

/- Without such a segment exactly the fields are added. -/
theorem exists_addColumns
    (columns : Columns)
    (hMalformed :
      members.findSome? Member.malformed? = none) :
    ∃ after,
      addColumns columns members = .ok after ∧
        ∀ field,
          field ∈ after ↔
            field ∈ columns ∨
              field ∈ members.map Member.name := by
  induction members generalizing columns with
  | nil => exact ⟨columns, rfl, by simp⟩
  | cons member rest ih =>
      rw [List.findSome?_cons] at hMalformed
      cases hFirst : member.malformed? with
      | none =>
          rw [hFirst] at hMalformed
          rcases Member.exists_parse hFirst with
            ⟨directives, hParse⟩
          rw [addColumns, Member.column, hParse]
          rcases ih _ hMalformed with ⟨after, hAfter, hFields⟩
          refine ⟨after, hAfter, ?_⟩
          intro field
          rw [hFields, Std.ExtTreeMap.mem_insert,
            List.map_cons, List.mem_cons,
            Std.LawfulEqCmp.compare_eq_iff_eq]
          constructor
          · rintro ((hEq | hOld) | hRest)
            · exact Or.inr (Or.inl hEq.symm)
            · exact Or.inl hOld
            · exact Or.inr (Or.inr hRest)
          · rintro (hOld | hEq | hRest)
            · exact Or.inl (Or.inr hOld)
            · exact Or.inl (Or.inl hEq.symm)
            · exact Or.inr hRest
      | some first =>
          rw [hFirst] at hMalformed
          cases hMalformed

end Record

end RecordQuery

------------------------------------------------------------
-- Customizations
------------------------------------------------------------

namespace RecordQuery

/- The field whose column a customization replaces. -/
def Customization.field? : Customization → Option String
| .table _ => none
| .column field _ => some field

namespace Mapping

/- The first customized field that a mapping does not have. -/
def unknown?
    (m : Mapping)
    (changes : List Customization) :
    Option String :=
  (changes.filterMap Customization.field?).find?
    (fun field => !(m.column? field).isSome)

variable {m : Mapping}
variable {changes : List Customization}

/- A change without a fault leaves the same fields unknown. -/
theorem unknown?_of_customize
    {changed : Mapping}
    {change : Customization}
    (hChanged : m.customize change = .ok changed) :
    changed.unknown? changes = m.unknown? changes := by
  unfold unknown?
  congr 1
  funext field
  rw [isSome_column?_customize hChanged field]

/-
  A change is made and leaves the search for an unknown
  field to the others, or its own field is unknown.
-/
theorem customize_cases
    (m : Mapping)
    (change : Customization) :
    (∃ changed,
        m.customize change = .ok changed ∧
          ∀ rest,
            m.unknown? (change :: rest) =
              changed.unknown? rest) ∨
      ∃ field,
        m.customize change = .error (.unknownField field) ∧
          ∀ rest, m.unknown? (change :: rest) = some field := by
  cases change with
  | table name => exact Or.inl ⟨_, rfl, fun rest => rfl⟩
  | column field column =>
      cases hField : m.column? field with
      | none =>
          right
          refine ⟨field, by simp [customize, hField], ?_⟩
          intro rest
          simp [unknown?, Customization.field?, hField]
      | some old =>
          have hChanged :
              m.customize (.column field column) =
                .ok
                  { m with
                    columns :=
                      m.columns.insert field column } := by
            simp [customize, hField]
          left
          refine ⟨_, hChanged, ?_⟩
          intro rest
          rw [unknown?_of_customize hChanged]
          simp [unknown?, Customization.field?, hField]

/- The first unknown field is the fault. -/
theorem customizeAll_of_unknown
    {field : String}
    (hUnknown : m.unknown? changes = some field) :
    m.customizeAll changes = .error (.unknownField field) := by
  induction changes generalizing m with
  | nil => cases hUnknown
  | cons change rest ih =>
      rw [customizeAll]
      rcases m.customize_cases change with
        ⟨changed, hChanged, hRest⟩ | ⟨first, hFault, hFirst⟩
      · rw [hRest] at hUnknown
        rw [hChanged]
        exact ih hUnknown
      · rw [hFirst] at hUnknown
        cases hUnknown
        rw [hFault]

/- Without an unknown field every change is made. -/
theorem exists_customizeAll
    (hUnknown : m.unknown? changes = none) :
    ∃ changed, m.customizeAll changes = .ok changed := by
  induction changes generalizing m with
  | nil => exact ⟨m, rfl⟩
  | cons change rest ih =>
      rw [customizeAll]
      rcases m.customize_cases change with
        ⟨changed, hChanged, hRest⟩ | ⟨first, _, hFirst⟩
      · rw [hRest] at hUnknown
        rw [hChanged]
        exact ih hUnknown
      · rw [hFirst] at hUnknown
        cases hUnknown

end Mapping

end RecordQuery

------------------------------------------------------------
-- Mappings Of Records
------------------------------------------------------------

namespace RecordQuery

/- The first customized field that a layout does not have. -/
def Layout.unknown?
    (l : Layout)
    (changes : List Customization) :
    Option String :=
  (changes.filterMap Customization.field?).find?
    (fun field =>
      !(l.members.map Member.name).contains field)

namespace Record

variable {r : Record}
variable {changes : List Customization}

/- A malformed tag is the fault, whatever the changes are. -/
theorem mapping_of_malformed
    {text : String}
    (hMalformed : r.layout.malformed? = some text) :
    r.mapping changes = .error (.invalidTag text) := by
  rw [mapping, addColumns_of_malformed hMalformed]

/-
  Without malformed tags the changes are made to a mapping
  with the fields of the layout.
-/
theorem exists_mapping_eq_customizeAll
    (hMalformed : r.layout.malformed? = none) :
    ∃ m : Mapping,
      (∀ changes, r.mapping changes = m.customizeAll changes) ∧
        ∀ changes,
          m.unknown? changes = r.layout.unknown? changes := by
  rcases exists_addColumns ∅ hMalformed with
    ⟨columns, hColumns, hFields⟩
  refine ⟨⟨r.table, columns⟩, ?_, ?_⟩
  · intro changes
    rw [mapping, hColumns]
  · intro changes
    unfold Mapping.unknown? Layout.unknown?
    congr 1
    funext field
    have hSame :
        (Mapping.column? ⟨r.table, columns⟩ field).isSome =
          (r.layout.members.map Member.name).contains
            field := by
      rw [Bool.eq_iff_iff, Mapping.column?,
        ← Std.ExtTreeMap.mem_iff_isSome_getElem?,
        hFields, List.contains_iff_mem]
      simp
    rw [hSame]

/- After that the first unknown field is the fault. -/
theorem mapping_of_unknown
    {field : String}
    (hMalformed : r.layout.malformed? = none)
    (hUnknown : r.layout.unknown? changes = some field) :
    r.mapping changes = .error (.unknownField field) := by
  rcases exists_mapping_eq_customizeAll hMalformed with
    ⟨m, hMapping, hSame⟩
  rw [hMapping]
  exact
    Mapping.customizeAll_of_unknown
      ((hSame changes).trans hUnknown)

/- Without either there is a mapping. -/
theorem exists_mapping
    (hMalformed : r.layout.malformed? = none)
    (hUnknown : r.layout.unknown? changes = none) :
    ∃ m, r.mapping changes = .ok m := by
  rcases exists_mapping_eq_customizeAll hMalformed with
    ⟨m, hMapping, hSame⟩
  rw [hMapping]
  exact
    Mapping.exists_customizeAll
      ((hSame changes).trans hUnknown)

end Record

end RecordQuery
