import RecordQuery.Record.Attribute

/-
  The mapping attributes among others, and what they hold.

  Key definitions include:
    * `RecordQuery.Attribute.mappings`
    * `RecordQuery.Attribute.HoldsText`
    * `RecordQuery.Attribute.HoldsName`

  Key theorems include:
    * `RecordQuery.Attribute.mem_mappings_iff`
    * `RecordQuery.Attribute.textArgument?_eq_some_iff`
    * `RecordQuery.Attribute.nameArgument?_eq_some_iff`

  An attribute of a field should hold a single text, and one
  of a record type a single identifier.
-/

------------------------------------------------------------
-- Mapping Attributes
------------------------------------------------------------

namespace RecordQuery

namespace Attribute

/- The mapping attributes among others, in order. -/
def mappings
    (attributes : List Attribute) :
    List Attribute :=
  attributes.filter isMapping

/- An attribute that holds a text between delimiters. -/
def HoldsText
    (a : Attribute)
    (value : String) :
    Prop :=
  ∃ delimiter, a.form = .delimited delimiter [.text value]

/-
  An attribute that holds an identifier between delimiters.
  A reserved word is no identifier.
-/
def HoldsName
    (a : Attribute)
    (name : Identifier) :
    Prop :=
  name.isReserved = false ∧
    ∃ delimiter, a.form = .delimited delimiter [.name name]

/- Mapping attributes are those with the mapping path. -/
theorem mem_mappings_iff
    {a : Attribute}
    {attributes : List Attribute} :
    a ∈ mappings attributes ↔
      a ∈ attributes ∧ a.path = mappingPath := by
  rw [mappings, List.mem_filter, isMapping, beq_iff_eq]

/- The mapping attributes are recognized as such. -/
theorem isMapping_of_mem_mappings
    {a : Attribute}
    {attributes : List Attribute}
    (hMem : a ∈ mappings attributes) :
    a.isMapping = true :=
  (List.mem_filter.mp hMem).2

/- The text of an attribute is the one that it holds. -/
theorem textArgument?_eq_some_iff
    {a : Attribute}
    {value : String} :
    a.textArgument? = some value ↔ a.HoldsText value := by
  unfold textArgument? HoldsText
  constructor
  · intro hText
    split at hText
    · rename_i delimiter own hForm
      cases hText
      exact ⟨delimiter, hForm⟩
    · cases hText
  · rintro ⟨delimiter, hForm⟩
    rw [hForm]

/- An attribute without a text holds none. -/
theorem textArgument?_eq_none_iff
    {a : Attribute} :
    a.textArgument? = none ↔
      ∀ value, ¬ a.HoldsText value := by
  simp only [← textArgument?_eq_some_iff,
    Option.eq_none_iff_forall_ne_some, ne_eq]

/- The name of an attribute is the one that it holds. -/
theorem nameArgument?_eq_some_iff
    {a : Attribute}
    {name : Identifier} :
    a.nameArgument? = some name ↔ a.HoldsName name := by
  unfold nameArgument? HoldsName
  constructor
  · intro hName
    split at hName
    · rename_i delimiter own hForm
      split at hName
      · cases hName
      · rename_i hFree
        cases hName
        exact
          ⟨Bool.of_not_eq_true hFree, delimiter, hForm⟩
    · cases hName
  · rintro ⟨hFree, delimiter, hForm⟩
    rw [hForm]
    exact if_neg (by simp [hFree])

/- An attribute without a name holds none. -/
theorem nameArgument?_eq_none_iff
    {a : Attribute} :
    a.nameArgument? = none ↔
      ∀ name, ¬ a.HoldsName name := by
  simp only [← nameArgument?_eq_some_iff,
    Option.eq_none_iff_forall_ne_some, ne_eq]

end Attribute

end RecordQuery
