import RecordQuery.Registry

/-
  What registrations and lookups can come to.

  Key theorems include:
    * `RecordQuery.Registry.register_cases`
    * `RecordQuery.Registry.lookup_cases`

  All that is known about the steps of a registry follows
  from these cases.  Only a registration stores a mapping,
  and a lookup of a type without an entry is one.
-/

------------------------------------------------------------
-- Targets
------------------------------------------------------------

namespace RecordQuery

/- A record is found behind exactly one pointer. -/
theorem Target.record?_eq_some_iff
    {target : Target}
    {record : Record} :
    target.record? = some record ↔
      ∃ kind, target = .pointer kind (.record record) := by
  constructor
  · intro hRecord
    unfold record? at hRecord
    split at hRecord
    · rename_i kind found
      cases hRecord
      exact ⟨kind, rfl⟩
    · cases hRecord
  · rintro ⟨kind, rfl⟩
    rfl

end RecordQuery

------------------------------------------------------------
-- Cases
------------------------------------------------------------

namespace RecordQuery

namespace Registry

variable (r : Registry)

/- Without a record there is nothing to register. -/
theorem register_of_not_record
    {target : Target}
    (changes : List Customization)
    (hNone : target.record? = none) :
    r.register target changes =
      ⟨r, .error (.ofFault .notRecordPointer),
        [.rejected]⟩ := by
  unfold register
  rw [hNone]

/- A record without a mapping is not registered. -/
theorem register_of_mapping_error
    {target : Target}
    {changes : List Customization}
    {record : Record}
    {fault : Fault}
    (hRecord : target.record? = some record)
    (hMapping : record.mapping changes = .error fault) :
    r.register target changes =
      ⟨r, .error ⟨fault, some record.layout.name⟩,
        [.failed ⟨fault, some record.layout.name⟩]⟩ := by
  unfold register registerRecord
  rw [hRecord]
  dsimp only
  rw [hMapping]

/- Any other record is registered with its mapping. -/
theorem register_of_mapping
    {target : Target}
    {changes : List Customization}
    {record : Record}
    {mapping : Mapping}
    (hRecord : target.record? = some record)
    (hMapping : record.mapping changes = .ok mapping) :
    r.register target changes =
      ⟨r.store record.key mapping,
        .ok (r.nextEntry mapping),
        [.registered record.layout.name mapping.table
          mapping.columns.size]⟩ := by
  unfold register registerRecord
  rw [hRecord]
  dsimp only
  rw [hMapping]

/-
  A registration fails because of its target or because the
  record has no mapping, or it stores the mapping.
-/
theorem register_cases
    (target : Target)
    (changes : List Customization) :
    (target.record? = none ∧
        r.register target changes =
          ⟨r, .error (.ofFault .notRecordPointer),
            [.rejected]⟩) ∨
      (∃ record fault,
        target.record? = some record ∧
          record.mapping changes = .error fault ∧
          r.register target changes =
            ⟨r, .error ⟨fault, some record.layout.name⟩,
              [.failed
                ⟨fault, some record.layout.name⟩]⟩) ∨
      ∃ record mapping,
        target.record? = some record ∧
          record.mapping changes = .ok mapping ∧
          r.register target changes =
            ⟨r.store record.key mapping,
              .ok (r.nextEntry mapping),
              [.registered record.layout.name mapping.table
                mapping.columns.size]⟩ := by
  cases hRecord : target.record? with
  | none =>
      exact
        Or.inl ⟨rfl, r.register_of_not_record changes hRecord⟩
  | some record =>
      right
      cases hMapping : record.mapping changes with
      | error fault =>
          have hEq :=
            r.register_of_mapping_error hRecord hMapping
          exact Or.inl ⟨record, fault, rfl, hMapping, hEq⟩
      | ok mapping =>
          have hEq := r.register_of_mapping hRecord hMapping
          exact Or.inr ⟨record, mapping, rfl, hMapping, hEq⟩

variable {r}

/- A type with an entry is looked up through any pointer. -/
theorem lookup_pointer_of_cached
    {record : Record}
    {entry : Entry}
    (kind : PointerKind)
    (hCached : r.cached record.key = some entry) :
    r.lookup (.pointer kind (.record record)) =
      ⟨r, .ok entry, [.found record.layout.name]⟩ := by
  unfold lookup
  dsimp only [Target.record?]
  rw [hCached]

/- Any other lookup is a registration. -/
theorem lookup_eq_register
    {target : Target}
    (hNone :
      ∀ record,
        target.record? = some record →
          r.cached record.key = none) :
    r.lookup target = r.register target [] := by
  unfold lookup
  cases hRecord : target.record? with
  | none => rfl
  | some record =>
      dsimp only
      rw [hNone record hRecord]

/-
  A lookup finds the entry of its type, or it registers the
  target without customizations.
-/
theorem lookup_cases
    (r : Registry)
    (target : Target) :
    (∃ record entry,
        target.record? = some record ∧
          r.cached record.key = some entry ∧
          r.lookup target =
            ⟨r, .ok entry, [.found record.layout.name]⟩) ∨
      (∀ record,
          target.record? = some record →
            r.cached record.key = none) ∧
        r.lookup target = r.register target [] := by
  by_cases hNone :
      ∀ record,
        target.record? = some record →
          r.cached record.key = none
  · exact Or.inr ⟨hNone, lookup_eq_register hNone⟩
  · left
    rcases Classical.not_forall.mp hNone with
      ⟨record, hRecord⟩
    rcases Classical.not_imp.mp hRecord with
      ⟨hRecord, hCached⟩
    rcases Option.ne_none_iff_exists'.mp hCached with
      ⟨entry, hEntry⟩
    rcases Target.record?_eq_some_iff.mp hRecord with
      ⟨kind, rfl⟩
    exact
      ⟨record, entry, rfl, hEntry,
        lookup_pointer_of_cached kind hEntry⟩

end Registry

end RecordQuery
