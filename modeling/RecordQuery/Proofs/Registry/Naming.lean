import RecordQuery.Proofs.Record.Naming
import RecordQuery.Proofs.Registry.Registration

/-
  The names that a registered record gets.

  Key theorems include:
    * `RecordQuery.Registry.register_of_agree`
    * `RecordQuery.Registry.register_follows_last_choices`

  Only the record and the last choices of its customizations
  count.  What was registered before does not.
-/

------------------------------------------------------------
-- Registered Names
------------------------------------------------------------

namespace RecordQuery

namespace Registry

open Customization

/-
  A registration that succeeds does so in every registry and
  with the same mapping, also if its customizations agree
  with those that were given in their last choices only.
-/
theorem register_of_agree
    {r : Registry}
    {target : Target}
    {changes others : List Customization}
    {entry : Entry}
    (other : Registry)
    (hEntry : (r.register target changes).answer = .ok entry)
    (hAgree : Agree changes others) :
    ∃ same : Entry,
      (other.register target others).answer = .ok same ∧
        same.mapping = entry.mapping := by
  rcases r.exists_record_of_register hEntry with
    ⟨record, hRecord, hMapping, _, _⟩
  rcases Target.record?_eq_some_iff.mp hRecord with
    ⟨kind, rfl⟩
  refine ⟨other.nextEntry entry.mapping, ?_, rfl⟩
  rw [answer_register_pointer,
    Record.mapping_of_agree hMapping hAgree]

/-
  The closed form of a registered mapping.  Its fields are
  those of the record, whatever is customized.  The table is
  the last one that the customizations name, or else that of
  the instance, or else it is named after the type; a column
  is the last one that the customizations give to its field,
  or else the last one in the tag of the last field with the
  name, or else it is named after the field.  An empty name
  is a name.  What was registered before does not count, nor
  does the order of customizations of different fields or of
  the table, nor any customization that a later one undoes.
-/
theorem register_follows_last_choices
    (r : Registry)
    (target : Target)
    (changes : List Customization)
    (entry : Entry)
    (hEntry :
      (r.register target changes).answer = .ok entry) :
    ∃ kind record,
      target = .pointer kind (.record record) ∧
        (∀ field,
          field ∈ entry.mapping.columns ↔
            field ∈ record.layout.members.map Member.name) ∧
        entry.mapping.table =
          (lastChoice? tableName? changes).getD
            (record.tableName.getD
              (Text.snakeCase record.layout.name)) ∧
        (∀ field member,
          record.layout.member? field = some member →
            entry.mapping.column? field =
              some
                ((lastChoice? (columnOf? field) changes).getD
                  (member.tagColumn?.getD
                    (Text.snakeCase field)))) ∧
        (∀ (other : Registry) others,
          Agree changes others →
            ∃ same : Entry,
              (other.register target others).answer =
                  .ok same ∧
                same.mapping = entry.mapping) ∧
        ∀ before a b after,
          changes = before ++ a :: b :: after →
            a.field? ≠ b.field? →
              Agree changes (before ++ b :: a :: after) := by
  rcases r.exists_record_of_register hEntry with
    ⟨record, hRecord, hMapping, _, _⟩
  rcases Target.record?_eq_some_iff.mp hRecord with
    ⟨kind, hTarget⟩
  rcases Record.names_of_mapping hMapping with
    ⟨hTable, hColumns⟩
  refine
    ⟨kind, record, hTarget,
      Record.mem_columns_of_mapping hMapping, hTable, ?_,
      fun other _ => register_of_agree other hEntry, ?_⟩
  · intro field member hMember
    rw [hColumns, Record.finalColumn?, hMember]
    rfl
  · rintro before a b after rfl hField
    exact agree_swap before after hField

/-
  Of two fields with one name the tag of the second counts,
  and of its directives the last, which is empty.  An empty
  table of the instance is replaced by a customization, and
  so is an empty column.
-/
theorem register_follows_last_choices_of_twice_named :
    let record : Record :=
      ⟨"user",
        ⟨"User",
          [⟨"Id", some "column=a"⟩, ⟨"LastName", none⟩,
            ⟨"Id", some "column=x,key=,column="⟩]⟩,
        some ""⟩
    let target : Target := .pointer .owned (.record record)
    let first : Customization := .column "LastName" ""
    let second : Customization := .column "LastName" "name"
    let changes : List Customization :=
      [first, .table "people", second]
    let used := (empty.register target [first]).registry
    ∃ entry same : Entry,
      (empty.register target changes).answer = .ok entry ∧
        entry.mapping.table = "people" ∧
        entry.mapping.column? "Id" = some "" ∧
        entry.mapping.column? "LastName" = some "name" ∧
        (used.register target
              [first, second, .table "people"]).answer =
            .ok same ∧
        same.mapping = entry.mapping := by
  intro record target first second changes used
  have hSome :
      ∃ mapping, record.mapping changes = .ok mapping :=
    Record.exists_mapping (by decide) (by decide)
  rcases hSome with ⟨mapping, hMapping⟩
  have hEntry :
      (empty.register target changes).answer =
        .ok (empty.nextEntry mapping) := by
    rw [answer_register_pointer, hMapping]
  rcases
      register_follows_last_choices empty target changes _
        hEntry
    with
    ⟨kind, found, hTarget, _, hTable, hColumn, hSame, hSwap⟩
  injection hTarget with _ hRecord
  injection hRecord with hFound
  subst hFound
  have hAgree :=
    hSwap [first] (.table "people") second [] rfl (by decide)
  rcases hSame used _ hAgree with ⟨same, hOk, hEq⟩
  exact
    ⟨_, same, hEntry, hTable, hColumn "Id" _ rfl,
      hColumn "LastName" _ rfl, hOk, hEq⟩

end Registry

end RecordQuery
