import RecordQuery.Proofs.Record.Attribute
import RecordQuery.Record.Declaration

/-
  Which declared record types are marked as supplying their
  table name, and which are faults.

  Key definitions include:
    * `RecordQuery.Declaration.MarkVerdict`

  Key theorems include:
    * `RecordQuery.Declaration.readMark_mappings`
    * `RecordQuery.Declaration.readMark_eq_iff`
    * `RecordQuery.Declaration.reports_all_iff`
    * `RecordQuery.Declaration.first_attribute_decides_mark`

  Only the first mapping attribute is looked at.  What is
  wrong with a later one is overlooked, in contrast to the
  attributes of fields.
-/

------------------------------------------------------------
-- Marks Of Record Types
------------------------------------------------------------

namespace RecordQuery

namespace Declaration

open Attribute

/-
  What the mapping attributes of a record type come to.  The
  first one decides, and the others are not checked.
-/
inductive MarkVerdict
    (record : Identifier) :
    List Attribute → Except DeclarationFault Bool → Prop where
  | missing :
      MarkVerdict record [] (.ok false)
  | marked
      {first : Attribute}
      {rest : List Attribute}
      (hFirst : first.HoldsName tableNameMark) :
      MarkVerdict record (first :: rest) (.ok true)
  | malformed
      {first : Attribute}
      {rest : List Attribute}
      (hFirst : ∀ name, ¬ first.HoldsName name) :
      MarkVerdict record (first :: rest)
        (.error (.recordUsage record))
  | unknown
      {first : Attribute}
      {rest : List Attribute}
      {mark : Identifier}
      (hFirst : first.HoldsName mark)
      (hMark : mark ≠ tableNameMark) :
      MarkVerdict record (first :: rest)
        (.error (.unknownMark mark))

variable {record : Identifier}

/- Only the mapping attributes are read. -/
theorem readMark_mappings
    (attributes : List Attribute) :
    readMark record (mappings attributes) =
      readMark record attributes := by
  unfold mappings
  induction attributes with
  | nil => rfl
  | cons a rest ih =>
      by_cases hMapping : a.isMapping = true
      · rw [List.filter_cons_of_pos hMapping, readMark,
          readMark, if_pos hMapping, if_pos hMapping]
      · rw [List.filter_cons_of_neg hMapping, ih, readMark,
          if_neg hMapping]

/- Mapping attributes are read as their verdict says. -/
theorem readMark_of_markVerdict
    {marks : List Attribute}
    {result : Except DeclarationFault Bool}
    (hMarks : ∀ a ∈ marks, a.isMapping = true)
    (hVerdict : MarkVerdict record marks result) :
    readMark record marks = result := by
  cases hVerdict with
  | missing => rfl
  | marked hFirst =>
      rw [readMark, if_pos (hMarks _ (by simp)),
        nameArgument?_eq_some_iff.mpr hFirst]
      exact if_pos rfl
  | malformed hFirst =>
      rw [readMark, if_pos (hMarks _ (by simp)),
        nameArgument?_eq_none_iff.mpr hFirst]
  | unknown hFirst hMark =>
      rw [readMark, if_pos (hMarks _ (by simp)),
        nameArgument?_eq_some_iff.mpr hFirst]
      exact if_neg hMark

/- There is a verdict on any attributes. -/
theorem exists_markVerdict
    (record : Identifier)
    (marks : List Attribute) :
    ∃ result, MarkVerdict record marks result := by
  cases marks with
  | nil => exact ⟨_, .missing⟩
  | cons first rest =>
      cases hFirst : first.nameArgument? with
      | none =>
          exact
            ⟨_, .malformed
              (nameArgument?_eq_none_iff.mp hFirst)⟩
      | some mark =>
          rw [nameArgument?_eq_some_iff] at hFirst
          by_cases hMark : mark = tableNameMark
          · subst hMark
            exact ⟨_, .marked hFirst⟩
          · exact ⟨_, .unknown hFirst hMark⟩

/- Reading gives the verdict on the mapping attributes. -/
theorem readMark_eq_iff
    {attributes : List Attribute}
    {result : Except DeclarationFault Bool} :
    readMark record attributes = result ↔
      MarkVerdict record (mappings attributes) result := by
  have hMarks :
      ∀ a ∈ mappings attributes, a.isMapping = true :=
    fun a hMem => isMapping_of_mem_mappings hMem
  rw [← readMark_mappings]
  constructor
  · rintro rfl
    rcases
        exists_markVerdict record (mappings attributes) with
      ⟨result, hVerdict⟩
    rw [readMark_of_markVerdict hMarks hVerdict]
    exact hVerdict
  · intro hVerdict
    exact readMark_of_markVerdict hMarks hVerdict

/- There is no mark only if there is nothing to read. -/
theorem markVerdict_ok_false_iff
    {marks : List Attribute} :
    MarkVerdict record marks (.ok false) ↔ marks = [] := by
  constructor
  · intro hVerdict
    cases hVerdict with
    | missing => rfl
  · rintro rfl
    exact .missing

/- A first attribute that is the mark is enough. -/
theorem markVerdict_ok_true_iff
    {marks : List Attribute} :
    MarkVerdict record marks (.ok true) ↔
      ∃ first rest,
        marks = first :: rest ∧
          first.HoldsName tableNameMark := by
  constructor
  · intro hVerdict
    cases hVerdict with
    | marked hFirst => exact ⟨_, _, rfl, hFirst⟩
  · rintro ⟨first, rest, rfl, hFirst⟩
    exact .marked hFirst

/- The first attribute holds no identifier. -/
theorem markVerdict_recordUsage_iff
    {marks : List Attribute} :
    MarkVerdict record marks
        (.error (.recordUsage record)) ↔
      ∃ first rest,
        marks = first :: rest ∧
          ∀ name, ¬ first.HoldsName name := by
  constructor
  · intro hVerdict
    cases hVerdict with
    | malformed hFirst => exact ⟨_, _, rfl, hFirst⟩
  · rintro ⟨first, rest, rfl, hFirst⟩
    exact .malformed hFirst

/- The first attribute holds another identifier. -/
theorem markVerdict_unknownMark_iff
    {marks : List Attribute}
    {mark : Identifier} :
    MarkVerdict record marks (.error (.unknownMark mark)) ↔
      mark ≠ tableNameMark ∧
        ∃ first rest,
          marks = first :: rest ∧ first.HoldsName mark := by
  constructor
  · intro hVerdict
    cases hVerdict with
    | unknown hFirst hMark =>
        exact ⟨hMark, _, _, rfl, hFirst⟩
  · rintro ⟨hMark, first, rest, rfl, hFirst⟩
    exact .unknown hFirst hMark

/- There is a fault if the first attribute is no mark. -/
theorem exists_markVerdict_error_iff
    {marks : List Attribute} :
    (∃ fault, MarkVerdict record marks (.error fault)) ↔
      ∃ first rest,
        marks = first :: rest ∧
          ¬ first.HoldsName tableNameMark := by
  constructor
  · rintro ⟨fault, hVerdict⟩
    cases hVerdict with
    | malformed hFirst => exact ⟨_, _, rfl, hFirst _⟩
    | unknown hFirst hMark =>
        refine ⟨_, _, rfl, ?_⟩
        intro hOwn
        rw [← nameArgument?_eq_some_iff] at hFirst hOwn
        rw [hFirst] at hOwn
        exact hMark (Option.some.inj hOwn)
  · rintro ⟨first, rest, rfl, hFirst⟩
    rcases exists_markVerdict record (first :: rest) with
      ⟨result, hVerdict⟩
    cases hVerdict with
    | marked hOwn => exact absurd hOwn hFirst
    | malformed hNone => exact ⟨_, .malformed hNone⟩
    | unknown hOwn hMark => exact ⟨_, .unknown hOwn hMark⟩

/-
  All mapping attributes that are not the mark are reported,
  unless there are such behind a first one that is.
-/
theorem reports_all_iff
    (d : Declaration) :
    ((∃ fault, d.suppliesTableName = .error fault) ↔
        ∃ a ∈ d.attributes,
          a.path = mappingPath ∧
            ¬ a.HoldsName tableNameMark) ↔
      ¬ ∃ first rest,
        mappings d.attributes = first :: rest ∧
          first.HoldsName tableNameMark ∧
          ∃ a ∈ rest, ¬ a.HoldsName tableNameMark := by
  have hFaults :
      (∃ fault, d.suppliesTableName = .error fault) ↔
        ∃ first rest,
          mappings d.attributes = first :: rest ∧
            ¬ first.HoldsName tableNameMark := by
    rw [← exists_markVerdict_error_iff]
    exact exists_congr fun fault => readMark_eq_iff
  have hOthers :
      (∃ a ∈ d.attributes,
        a.path = mappingPath ∧
          ¬ a.HoldsName tableNameMark) ↔
        ∃ a ∈ mappings d.attributes,
          ¬ a.HoldsName tableNameMark := by
    simp only [mem_mappings_iff, and_assoc]
  rw [hFaults, hOthers]
  -- Only a first attribute that is the mark hides others.
  cases mappings d.attributes with
  | nil => simp
  | cons first rest =>
      by_cases hFirst : first.HoldsName tableNameMark
      · simp [hFirst]
      · simp [hFirst]

/- Only the mapping attributes of a record type matter. -/
theorem suppliesTableName_congr
    {d other : Declaration}
    (hIdentifier : other.identifier = d.identifier)
    (hMarks :
      mappings other.attributes = mappings d.attributes) :
    other.suppliesTableName = d.suppliesTableName := by
  unfold suppliesTableName
  rw [← readMark_mappings, hIdentifier, hMarks,
    readMark_mappings]

/-
  A record type without mapping attributes is not marked.
  Otherwise the first one has to be the mark and tells which
  fault there is if it is not.  So all attributes that are
  not the mark are reported, unless there are such behind a
  first one that is.
-/
theorem first_attribute_decides_mark
    (d : Declaration) :
    let marks := mappings d.attributes
    let result := d.suppliesTableName
    (result = .ok false ↔ marks = []) ∧
    (result = .ok true ↔
      ∃ first rest,
        marks = first :: rest ∧
          first.HoldsName tableNameMark) ∧
    (result = .error (.recordUsage d.identifier) ↔
      ∃ first rest,
        marks = first :: rest ∧
          ∀ name, ¬ first.HoldsName name) ∧
    (∀ mark,
      result = .error (.unknownMark mark) ↔
        mark ≠ tableNameMark ∧
          ∃ first rest,
            marks = first :: rest ∧ first.HoldsName mark) ∧
    (((∃ fault, result = .error fault) ↔
        ∃ a ∈ d.attributes,
          a.path = mappingPath ∧
            ¬ a.HoldsName tableNameMark) ↔
      ¬ ∃ first rest,
        marks = first :: rest ∧
          first.HoldsName tableNameMark ∧
          ∃ a ∈ rest, ¬ a.HoldsName tableNameMark) ∧
    (∀ others, mappings others = marks →
      Declaration.suppliesTableName
          { d with attributes := others } =
        result) := by
  refine ⟨?_, ?_, ?_, ?_, ?_, ?_⟩
  · exact readMark_eq_iff.trans markVerdict_ok_false_iff
  · exact readMark_eq_iff.trans markVerdict_ok_true_iff
  · exact readMark_eq_iff.trans markVerdict_recordUsage_iff
  · intro mark
    exact readMark_eq_iff.trans markVerdict_unknownMark_iff
  · exact d.reports_all_iff
  · intro others hMarks
    exact suppliesTableName_congr rfl hMarks

/-
  Attributes with other paths are put before and between
  without changing what the first mapping attribute says.
-/
theorem first_attribute_decides_mark_of_mixed_paths :
    let mark : Attribute :=
      ⟨mappingPath,
        .delimited .brace [.name tableNameMark]⟩
    let raw : Attribute := ⟨[⟨"orm", true⟩], .bare⟩
    let longer : Attribute :=
      ⟨⟨"serde", false⟩ :: mappingPath, .bare⟩
    suppliesTableName
        ⟨⟨"type", true⟩, [raw, mark, longer, mark], []⟩ =
      .ok true := by
  intro mark raw longer
  have hLaw :=
    first_attribute_decides_mark
      ⟨⟨"type", true⟩, [mark, mark], []⟩
  have hMark : mark.HoldsName tableNameMark :=
    ⟨by decide, .brace, rfl⟩
  rw [hLaw.2.2.2.2.2 [raw, mark, longer, mark] (by decide)]
  exact hLaw.2.1.mpr ⟨mark, [mark], by decide, hMark⟩

/-
  An attribute that holds nothing is accepted behind the
  mark, although it is a fault if it comes first.
-/
theorem malformed_attribute_is_overlooked :
    let mark : Attribute :=
      ⟨mappingPath,
        .delimited .parenthesis [.name tableNameMark]⟩
    let bare : Attribute := ⟨mappingPath, .bare⟩
    let user : Declaration :=
      ⟨⟨"User", false⟩, [mark, bare], []⟩
    user.suppliesTableName = .ok true ∧
      (∃ a ∈ user.attributes,
        a.path = mappingPath ∧ ∀ name, ¬ a.HoldsName name) ∧
      Declaration.suppliesTableName
          { user with attributes := [bare, mark] } =
        .error (.recordUsage user.identifier) := by
  intro mark bare user
  refine ⟨rfl, ⟨bare, ?_, rfl, ?_⟩, rfl⟩
  · exact List.mem_cons_of_mem _ List.mem_cons_self
  · rintro name ⟨hFree, delimiter, hForm⟩
    cases hForm

end Declaration

end RecordQuery
