import RecordQuery.Proofs.Record.Attribute
import RecordQuery.Record.Declaration

/-
  Which declared fields are accepted, with which tag, and
  which fault any other one is.

  Key definitions include:
    * `RecordQuery.DeclarationFault.OfTag`
    * `RecordQuery.FieldDeclaration.TagVerdict`
    * `RecordQuery.FieldDeclaration.worded`

  Key theorems include:
    * `RecordQuery.DeclarationFault.OfTag.eq_of_message_eq`
    * `RecordQuery.FieldDeclaration.readTag_mappings`
    * `RecordQuery.FieldDeclaration.readTag_eq_iff`
    * `RecordQuery.FieldDeclaration.two_attributes_decide_tag`

  Reading keeps the tag that it has found and stops at the
  first fault.  As a second tag is a fault in any case, no
  more than two mapping attributes are ever looked at.  All
  that is seen of a fault is its wording, which tells the
  wrong use of an attribute from one attribute too many.
-/

------------------------------------------------------------
-- Wordings Of Faults
------------------------------------------------------------

namespace RecordQuery

namespace DeclarationFault

/- A wrong use is worded unlike a repetition. -/
theorem message_usage_ne_repeated
    (field other : String) :
    message (.fieldUsage field) ≠
      message (.repeatedTag other) := by
  intro hEq
  have hUsage :
      (message (.fieldUsage field)).toList.head? =
        some 'E' := by
    change
      ("Error while parsing `orm` on field `" ++ field ++
        "`, use it like: `#[orm(\"column=my_column\")]`"
        ).toList.head? = _
    simp
  have hRepeated :
      (message (.repeatedTag other)).toList.head? =
        some 'F' := by
    change
      ("Field `" ++ other ++
        "` has more than one `orm` attribute"
        ).toList.head? = _
    simp
  rw [hEq, hRepeated] at hUsage
  cases hUsage

/- What can be wrong with the tag of a field. -/
def OfTag
    (field : String)
    (fault : DeclarationFault) :
    Prop :=
  fault = .fieldUsage field ∨ fault = .repeatedTag field

/- Such a fault is known by its wording. -/
theorem OfTag.eq_of_message_eq
    {field : String}
    {fault other : DeclarationFault}
    (hFault : fault.OfTag field)
    (hOther : other.OfTag field)
    (hMessage : fault.message = other.message) :
    fault = other := by
  rcases hFault with rfl | rfl
  · rcases hOther with rfl | rfl
    · rfl
    · exact absurd hMessage (message_usage_ne_repeated _ _)
  · rcases hOther with rfl | rfl
    · exact
        absurd hMessage.symm (message_usage_ne_repeated _ _)
    · rfl

end DeclarationFault

end RecordQuery

------------------------------------------------------------
-- Tags Of Fields
------------------------------------------------------------

namespace RecordQuery

namespace FieldDeclaration

open Attribute

/-
  What the mapping attributes of a field come to.  The first
  two decide, and each has to hold a text before there can
  be too many.
-/
inductive TagVerdict
    (field : String) :
    List Attribute →
      Except DeclarationFault (Option String) → Prop where
  | missing :
      TagVerdict field [] (.ok none)
  | single
      {only : Attribute}
      {value : String}
      (hOnly : only.HoldsText value) :
      TagVerdict field [only] (.ok (some value))
  | malformed
      {first : Attribute}
      {rest : List Attribute}
      (hFirst : ∀ value, ¬ first.HoldsText value) :
      TagVerdict field (first :: rest)
        (.error (.fieldUsage field))
  | malformedNext
      {first second : Attribute}
      {rest : List Attribute}
      {value : String}
      (hFirst : first.HoldsText value)
      (hSecond : ∀ other, ¬ second.HoldsText other) :
      TagVerdict field (first :: second :: rest)
        (.error (.fieldUsage field))
  | repeated
      {first second : Attribute}
      {rest : List Attribute}
      {value other : String}
      (hFirst : first.HoldsText value)
      (hSecond : second.HoldsText other) :
      TagVerdict field (first :: second :: rest)
        (.error (.repeatedTag field))

variable {field : String}

/- A mapping attribute that holds no text ends the reading. -/
theorem readTag_cons_of_malformed
    {a : Attribute}
    (tag : Option String)
    (rest : List Attribute)
    (hMapping : a.isMapping = true)
    (hText : ∀ value, ¬ a.HoldsText value) :
    readTag field tag (a :: rest) =
      .error (.fieldUsage field) := by
  unfold readTag
  rw [if_pos hMapping, textArgument?_eq_none_iff.mpr hText]

/- A text is taken, unless there is one already. -/
theorem readTag_cons_of_holdsText
    {a : Attribute}
    {value : String}
    (tag : Option String)
    (rest : List Attribute)
    (hMapping : a.isMapping = true)
    (hText : a.HoldsText value) :
    readTag field tag (a :: rest) =
      match tag with
      | none => readTag field (some value) rest
      | some _ => .error (.repeatedTag field) := by
  rw [← textArgument?_eq_some_iff] at hText
  cases tag with
  | none => simp only [readTag, hMapping, hText, if_true]
  | some own => simp only [readTag, hMapping, hText, if_true]

/- Any other attribute is skipped. -/
theorem readTag_cons_of_not_isMapping
    {a : Attribute}
    (tag : Option String)
    (rest : List Attribute)
    (hMapping : ¬ a.isMapping = true) :
    readTag field tag (a :: rest) =
      readTag field tag rest := by
  -- Both sides are readings; only the longer one is opened.
  conv =>
    lhs
    unfold readTag
  exact if_neg hMapping

/- Only the mapping attributes are read. -/
theorem readTag_mappings
    (tag : Option String)
    (attributes : List Attribute) :
    readTag field tag (mappings attributes) =
      readTag field tag attributes := by
  unfold mappings
  -- The tag found so far changes when one is read.
  induction attributes generalizing tag with
  | nil => rfl
  | cons a rest ih =>
      by_cases hMapping : a.isMapping = true
      · rw [List.filter_cons_of_pos hMapping]
        cases hText : a.textArgument? with
        | none =>
            rw [textArgument?_eq_none_iff] at hText
            rw [readTag_cons_of_malformed _ _ hMapping hText,
              readTag_cons_of_malformed _ _ hMapping hText]
        | some value =>
            rw [textArgument?_eq_some_iff] at hText
            rw [readTag_cons_of_holdsText _ _ hMapping hText,
              readTag_cons_of_holdsText _ _ hMapping hText,
              ih]
      · rw [List.filter_cons_of_neg hMapping, ih,
          readTag_cons_of_not_isMapping _ _ hMapping]

/- Mapping attributes are read as their verdict says. -/
theorem readTag_of_tagVerdict
    {marks : List Attribute}
    {result : Except DeclarationFault (Option String)}
    (hMarks : ∀ a ∈ marks, a.isMapping = true)
    (hVerdict : TagVerdict field marks result) :
    readTag field none marks = result := by
  cases hVerdict with
  | missing => rfl
  | single hOnly =>
      rw [readTag_cons_of_holdsText _ _
        (hMarks _ (by simp)) hOnly]
      rfl
  | malformed hFirst =>
      exact
        readTag_cons_of_malformed _ _
          (hMarks _ (by simp)) hFirst
  | malformedNext hFirst hSecond =>
      rw [readTag_cons_of_holdsText _ _
        (hMarks _ (by simp)) hFirst]
      exact
        readTag_cons_of_malformed _ _
          (hMarks _ (by simp)) hSecond
  | repeated hFirst hSecond =>
      rw [readTag_cons_of_holdsText _ _
        (hMarks _ (by simp)) hFirst]
      exact
        readTag_cons_of_holdsText _ _
          (hMarks _ (by simp)) hSecond

/- There is a verdict on any attributes. -/
theorem exists_tagVerdict
    (field : String)
    (marks : List Attribute) :
    ∃ result, TagVerdict field marks result := by
  cases marks with
  | nil => exact ⟨_, .missing⟩
  | cons first rest =>
      cases hFirst : first.textArgument? with
      | none =>
          exact
            ⟨_, .malformed
              (textArgument?_eq_none_iff.mp hFirst)⟩
      | some value =>
          rw [textArgument?_eq_some_iff] at hFirst
          cases rest with
          | nil => exact ⟨_, .single hFirst⟩
          | cons second more =>
              cases hSecond : second.textArgument? with
              | none =>
                  exact
                    ⟨_, .malformedNext hFirst
                      (textArgument?_eq_none_iff.mp
                        hSecond)⟩
              | some other =>
                  rw [textArgument?_eq_some_iff] at hSecond
                  exact ⟨_, .repeated hFirst hSecond⟩

/- Reading gives the verdict on the mapping attributes. -/
theorem readTag_eq_iff
    {attributes : List Attribute}
    {result : Except DeclarationFault (Option String)} :
    readTag field none attributes = result ↔
      TagVerdict field (mappings attributes) result := by
  have hMarks :
      ∀ a ∈ mappings attributes, a.isMapping = true :=
    fun a hMem => isMapping_of_mem_mappings hMem
  rw [← readTag_mappings]
  constructor
  · rintro rfl
    rcases exists_tagVerdict field (mappings attributes) with
      ⟨result, hVerdict⟩
    rw [readTag_of_tagVerdict hMarks hVerdict]
    exact hVerdict
  · intro hVerdict
    exact readTag_of_tagVerdict hMarks hVerdict

/- There is no tag only if there is nothing to read. -/
theorem tagVerdict_ok_none_iff
    {marks : List Attribute} :
    TagVerdict field marks (.ok none) ↔ marks = [] := by
  constructor
  · intro hVerdict
    cases hVerdict with
    | missing => rfl
  · rintro rfl
    exact .missing

/- A tag is the text of a single attribute. -/
theorem tagVerdict_ok_some_iff
    {marks : List Attribute}
    {value : String} :
    TagVerdict field marks (.ok (some value)) ↔
      ∃ only, marks = [only] ∧ only.HoldsText value := by
  constructor
  · intro hVerdict
    cases hVerdict with
    | single hOnly => exact ⟨_, rfl, hOnly⟩
  · rintro ⟨only, rfl, hOnly⟩
    exact .single hOnly

/- The first or the second attribute is used wrongly. -/
theorem tagVerdict_fieldUsage_iff
    {marks : List Attribute} :
    TagVerdict field marks (.error (.fieldUsage field)) ↔
      (∃ first rest,
        marks = first :: rest ∧
          ∀ value, ¬ first.HoldsText value) ∨
      ∃ first second rest,
        marks = first :: second :: rest ∧
          (∃ value, first.HoldsText value) ∧
          ∀ value, ¬ second.HoldsText value := by
  constructor
  · intro hVerdict
    cases hVerdict with
    | malformed hFirst => exact .inl ⟨_, _, rfl, hFirst⟩
    | malformedNext hFirst hSecond =>
        exact .inr ⟨_, _, _, rfl, ⟨_, hFirst⟩, hSecond⟩
  · rintro
      (⟨first, rest, rfl, hFirst⟩ |
        ⟨first, second, rest, rfl, ⟨value, hFirst⟩,
          hSecond⟩)
    · exact .malformed hFirst
    · exact .malformedNext hFirst hSecond

/- Two attributes are used rightly, and so there are two. -/
theorem tagVerdict_repeatedTag_iff
    {marks : List Attribute} :
    TagVerdict field marks (.error (.repeatedTag field)) ↔
      ∃ first second rest,
        marks = first :: second :: rest ∧
          (∃ value, first.HoldsText value) ∧
          ∃ value, second.HoldsText value := by
  constructor
  · intro hVerdict
    cases hVerdict with
    | repeated hFirst hSecond =>
        exact
          ⟨_, _, _, rfl, ⟨_, hFirst⟩, ⟨_, hSecond⟩⟩
  · rintro
      ⟨first, second, rest, rfl, ⟨value, hFirst⟩,
        ⟨other, hSecond⟩⟩
    exact .repeated hFirst hSecond

variable {i : Identifier}
variable {attributes : List Attribute}

/- A named field is declared with its name and its tag. -/
theorem member_eq_ok_iff
    {tag : Option String} :
    member ⟨some i, attributes⟩ = .ok ⟨i.name, tag⟩ ↔
      TagVerdict i.name (mappings attributes) (.ok tag) := by
  rw [← readTag_eq_iff]
  unfold member
  dsimp only
  cases readTag i.name none attributes with
  | error fault => simp
  | ok own => simp

/- The faults of a named field are those of its tag. -/
theorem member_eq_error_iff
    {fault : DeclarationFault} :
    member ⟨some i, attributes⟩ = .error fault ↔
      TagVerdict i.name (mappings attributes)
        (.error fault) := by
  rw [← readTag_eq_iff]
  unfold member
  dsimp only
  cases readTag i.name none attributes with
  | error own => simp
  | ok tag => simp

/- Only the mapping attributes of a field matter. -/
theorem member_congr
    {others : List Attribute}
    (hMarks : mappings others = mappings attributes) :
    member ⟨some i, others⟩ =
      member ⟨some i, attributes⟩ := by
  unfold member
  dsimp only
  rw [← readTag_mappings, hMarks, readTag_mappings]

/- The declared field, or the wording of its fault. -/
def worded
    (d : FieldDeclaration) :
    Except String Member :=
  d.member.mapError DeclarationFault.message

/- A field is worded as it is declared. -/
theorem worded_eq_ok_iff
    {d : FieldDeclaration}
    {own : Member} :
    d.worded = .ok own ↔ d.member = .ok own := by
  unfold worded
  cases d.member with
  | error fault => exact ⟨nofun, nofun⟩
  | ok other =>
      constructor
      · intro hWorded
        have hSame : other = own := Except.ok.inj hWorded
        rw [hSame]
      · intro hMember
        have hSame : other = own := Except.ok.inj hMember
        rw [hSame]
        rfl

/- A named field is used wrongly or has too many tags. -/
theorem fault_of_member
    {fault : DeclarationFault}
    (hFault :
      member ⟨some i, attributes⟩ = .error fault) :
    fault.OfTag i.name := by
  have hVerdict := member_eq_error_iff.mp hFault
  generalize mappings attributes = marks at hVerdict
  cases hVerdict with
  | malformed hFirst => exact Or.inl rfl
  | malformedNext hFirst hSecond => exact Or.inl rfl
  | repeated hFirst hSecond => exact Or.inr rfl

/- A named field is worded as the fault that it is. -/
theorem worded_eq_error_iff
    {fault : DeclarationFault}
    (hFault : fault.OfTag i.name) :
    worded ⟨some i, attributes⟩ = .error fault.message ↔
      member ⟨some i, attributes⟩ = .error fault := by
  unfold worded
  constructor
  · intro hWorded
    cases hMember : member ⟨some i, attributes⟩ with
    | ok own =>
        rw [hMember] at hWorded
        cases hWorded
    | error other =>
        rw [hMember] at hWorded
        have hMessage : other.message = fault.message :=
          Except.error.inj hWorded
        have hOther := fault_of_member hMember
        rw [hOther.eq_of_message_eq hFault hMessage]
  · intro hMember
    rw [hMember]
    rfl

/-
  A field without mapping attributes has no tag, and one
  with a single attribute that holds a text has that tag.
  All other fields are faults: they are worded as one of
  their usage if the first attribute holds no text, or the
  second one after a first one that does, and else as one of
  repetition.  Attributes with other paths do not matter.
-/
theorem two_attributes_decide_tag
    (i : Identifier)
    (attributes : List Attribute) :
    let marks := mappings attributes
    let result := worded ⟨some i, attributes⟩
    (result = .ok ⟨i.name, none⟩ ↔ marks = []) ∧
    (∀ value,
      result = .ok ⟨i.name, some value⟩ ↔
        ∃ only, marks = [only] ∧ only.HoldsText value) ∧
    (result =
        .error
          ("Error while parsing `orm` on field `" ++ i.name ++
            "`, use it like: `#[orm(\"column=my_column\")]`") ↔
      (∃ first rest,
        marks = first :: rest ∧
          ∀ value, ¬ first.HoldsText value) ∨
      ∃ first second rest,
        marks = first :: second :: rest ∧
          (∃ value, first.HoldsText value) ∧
          ∀ value, ¬ second.HoldsText value) ∧
    (result =
        .error
          ("Field `" ++ i.name ++
            "` has more than one `orm` attribute") ↔
      ∃ first second rest,
        marks = first :: second :: rest ∧
          (∃ value, first.HoldsText value) ∧
          ∃ value, second.HoldsText value) ∧
    (∀ others, mappings others = marks →
      worded ⟨some i, others⟩ = result) := by
  have hOk {tag : Option String} :
      worded ⟨some i, attributes⟩ = .ok ⟨i.name, tag⟩ ↔
        TagVerdict i.name (mappings attributes) (.ok tag) :=
    worded_eq_ok_iff.trans member_eq_ok_iff
  refine ⟨?_, ?_, ?_, ?_, ?_⟩
  · exact hOk.trans tagVerdict_ok_none_iff
  · intro value
    exact hOk.trans tagVerdict_ok_some_iff
  · have hUsage :
        (DeclarationFault.fieldUsage i.name).OfTag i.name :=
      Or.inl rfl
    exact
      ((worded_eq_error_iff hUsage).trans
        member_eq_error_iff).trans tagVerdict_fieldUsage_iff
  · have hRepeated :
        (DeclarationFault.repeatedTag i.name).OfTag i.name :=
      Or.inr rfl
    exact
      ((worded_eq_error_iff hRepeated).trans
        member_eq_error_iff).trans tagVerdict_repeatedTag_iff
  · intro others hMarks
    exact
      congrArg (Except.mapError DeclarationFault.message)
        (member_congr hMarks)

/-
  A raw path and a longer one are other paths.  The second
  attribute is used wrongly, which counts although the third
  one is a repetition.
-/
theorem two_attributes_decide_tag_of_malformed_second :
    let tag (value : String) : Attribute :=
      ⟨mappingPath, .delimited .bracket [.text value]⟩
    let bare : Attribute := ⟨mappingPath, .bare⟩
    let raw : Attribute := ⟨[⟨"orm", true⟩], .bare⟩
    let longer : Attribute :=
      ⟨⟨"serde", false⟩ :: mappingPath, .bare⟩
    worded ⟨some ⟨"type", true⟩,
        [raw, tag "", bare, longer, tag "a"]⟩ =
      .error
        ("Error while parsing `orm` on field `type`, use it " ++
          "like: `#[orm(\"column=my_column\")]`") ∧
    worded ⟨some ⟨"type", true⟩,
        [tag "", longer, tag "a", bare]⟩ =
      .error
        "Field `type` has more than one `orm` attribute" ∧
    worded ⟨some ⟨"type", true⟩, [raw, tag ""]⟩ =
      .ok ⟨"type", some ""⟩ ∧
    worded ⟨some ⟨"type", true⟩, [tag "", longer, raw]⟩ =
      .ok ⟨"type", some ""⟩ := by
  intro tag bare raw longer
  have hLaw := two_attributes_decide_tag ⟨"type", true⟩
  have hTag : (tag "").HoldsText "" := ⟨.bracket, rfl⟩
  have hBare : ∀ value, ¬ bare.HoldsText value := by
    rintro value ⟨delimiter, hForm⟩
    cases hForm
  have hOther : (tag "a").HoldsText "a" := ⟨.bracket, rfl⟩
  have hOne :
      worded ⟨some ⟨"type", true⟩, [raw, tag ""]⟩ =
        .ok ⟨"type", some ""⟩ :=
    ((hLaw [raw, tag ""]).2.1 "").mpr
      ⟨tag "", by decide, hTag⟩
  refine ⟨?_, ?_, hOne, ?_⟩
  · apply
      (hLaw [raw, tag "", bare, longer, tag "a"]).2.2.1.mpr
    exact
      .inr
        ⟨tag "", bare, [tag "a"], by decide, ⟨"", hTag⟩,
          hBare⟩
  · apply
      (hLaw [tag "", longer, tag "a", bare]).2.2.2.1.mpr
    exact
      ⟨tag "", tag "a", [bare], by decide, ⟨"", hTag⟩, "a",
        hOther⟩
  · rw [(hLaw [raw, tag ""]).2.2.2.2 _ (by decide)]
    exact hOne

end FieldDeclaration

end RecordQuery
