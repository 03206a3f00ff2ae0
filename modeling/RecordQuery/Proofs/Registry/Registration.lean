import RecordQuery.Proofs.Record.Derivation
import RecordQuery.Proofs.Registry.Outcome

/-
  When registrations and lookups fail, and with which fault.

  Key theorems include:
    * `RecordQuery.Registry.answer_register_pointer`
    * `RecordQuery.Registry.registry_register_of_error`
    * `RecordQuery.Registry.exists_record_of_register`
    * `RecordQuery.Registry.register_fails_in_order`

  The shape of the target comes first, then the tags of the
  record, then the customizations.  What fails leaves the
  registry as it was.
-/

------------------------------------------------------------
-- Answers
------------------------------------------------------------

namespace RecordQuery

namespace Registry

variable (r : Registry)

/- Whatever is not one pointer to a record is refused. -/
theorem answer_register_of_not_pointer
    {target : Target}
    (changes : List Customization)
    (hTarget :
      ∀ kind record,
        target ≠ .pointer kind (.record record)) :
    (r.register target changes).answer =
      .error ⟨.notRecordPointer, none⟩ := by
  have hNone : target.record? = none := by
    cases hRecord : target.record? with
    | none => rfl
    | some record =>
        rcases Target.record?_eq_some_iff.mp hRecord with
          ⟨kind, hPointer⟩
        exact absurd hPointer (hTarget kind record)
  rw [register, hNone]
  rfl

/-
  One pointer to a record fails or not as the mapping of the
  record does.
-/
theorem answer_register_pointer
    (kind : PointerKind)
    (record : Record)
    (changes : List Customization) :
    (r.register (.pointer kind (.record record))
        changes).answer =
      match record.mapping changes with
      | .error fault =>
          .error ⟨fault, some record.layout.name⟩
      | .ok mapping => .ok (r.nextEntry mapping) := by
  change (r.registerRecord record changes).answer = _
  unfold registerRecord
  cases record.mapping changes with
  | error fault => rfl
  | ok mapping => rfl

/- Exactly such targets are refused. -/
theorem answer_register_eq_notRecordPointer_iff
    (target : Target)
    (changes : List Customization) :
    (r.register target changes).answer =
        .error ⟨.notRecordPointer, none⟩ ↔
      ∀ kind record,
        target ≠ .pointer kind (.record record) := by
  constructor
  · intro hAnswer kind record hTarget
    rw [hTarget, answer_register_pointer] at hAnswer
    split at hAnswer
    · cases hAnswer
    · cases hAnswer
  · exact r.answer_register_of_not_pointer changes

/-
  A record has a malformed tag, or else an unknown field is
  customized, or else it is registered.
-/
theorem answer_register_pointer_cases
    (kind : PointerKind)
    (record : Record)
    (changes : List Customization) :
    let answer :=
      (r.register (.pointer kind (.record record))
        changes).answer
    let l := record.layout
    (∃ text,
        l.malformed? = some text ∧
          answer =
            .error ⟨.invalidTag text, some l.name⟩) ∨
      (∃ field,
        l.malformed? = none ∧
          l.unknown? changes = some field ∧
          answer =
            .error ⟨.unknownField field, some l.name⟩) ∨
      ∃ entry,
        l.malformed? = none ∧
          l.unknown? changes = none ∧
          answer = .ok entry := by
  intro answer l
  have hAnswer : answer = _ :=
    r.answer_register_pointer kind record changes
  cases hMalformed : l.malformed? with
  | some text =>
      left
      rw [Record.mapping_of_malformed hMalformed] at hAnswer
      exact ⟨text, rfl, hAnswer⟩
  | none =>
      right
      cases hUnknown : l.unknown? changes with
      | some field =>
          left
          rw [Record.mapping_of_unknown hMalformed hUnknown]
            at hAnswer
          exact ⟨field, rfl, rfl, hAnswer⟩
      | none =>
          right
          rcases Record.exists_mapping hMalformed hUnknown with
            ⟨mapping, hMapping⟩
          rw [hMapping] at hAnswer
          exact ⟨_, rfl, rfl, hAnswer⟩

/- A failed registration leaves the registry as it was. -/
theorem registry_register_of_error
    {target : Target}
    {changes : List Customization}
    {failure : Failure}
    (hFailure :
      (r.register target changes).answer = .error failure) :
    (r.register target changes).registry = r := by
  rcases r.register_cases target changes with
    ⟨_, hEq⟩ | ⟨_, _, _, _, hEq⟩ | ⟨_, _, _, _, hEq⟩
  · rw [hEq]
  · rw [hEq]
  · rw [hEq] at hFailure
    cases hFailure

/- A successful registration stores what it answers. -/
theorem exists_record_of_register
    {target : Target}
    {changes : List Customization}
    {entry : Entry}
    (hEntry :
      (r.register target changes).answer = .ok entry) :
    ∃ record,
      target.record? = some record ∧
        record.mapping changes = .ok entry.mapping ∧
        entry = r.nextEntry entry.mapping ∧
        (r.register target changes).registry =
          r.store record.key entry.mapping := by
  rcases r.register_cases target changes with
    ⟨_, hEq⟩ | ⟨_, _, _, _, hEq⟩ |
      ⟨record, mapping, hRecord, hMapping, hEq⟩
  · rw [hEq] at hEntry
    cases hEntry
  · rw [hEq] at hEntry
    cases hEntry
  · rw [hEq] at hEntry ⊢
    cases hEntry
    exact ⟨record, hRecord, hMapping, rfl, rfl⟩

/-
  Registrations fail by a fixed precedence.  A target that
  is not exactly one pointer to a record is refused.  Else
  the fault is the first segment of the first tag that is no
  directive, or, if there is none, the first customized
  field that the layout does not have; without either the
  registration succeeds.  What fails leaves the registry as
  it was.  A lookup never fails on one pointer to a record
  whose type has an entry, and is a registration without
  customizations for every other target.
-/
theorem register_fails_in_order
    (target : Target)
    (changes : List Customization) :
    let registered := r.register target changes
    (registered.answer = .error ⟨.notRecordPointer, none⟩ ↔
        ∀ kind record,
          target ≠ .pointer kind (.record record)) ∧
      (∀ kind record,
        target = .pointer kind (.record record) →
          let l := record.layout
          (∀ text,
              registered.answer =
                  .error ⟨.invalidTag text, some l.name⟩ ↔
                l.malformed? = some text) ∧
            (∀ field,
              registered.answer =
                  .error
                    ⟨.unknownField field, some l.name⟩ ↔
                l.malformed? = none ∧
                  l.unknown? changes = some field) ∧
            ((∃ entry, registered.answer = .ok entry) ↔
              l.malformed? = none ∧
                l.unknown? changes = none)) ∧
      (∀ failure,
        registered.answer = .error failure →
          registered.registry = r) ∧
      (∀ kind record entry,
        target = .pointer kind (.record record) →
          r.cached record.key = some entry →
            (r.lookup target).answer = .ok entry ∧
              (r.lookup target).registry = r) ∧
      ((∀ kind record,
          target = .pointer kind (.record record) →
            r.cached record.key = none) →
        r.lookup target = r.register target []) := by
  intro registered
  refine
    ⟨r.answer_register_eq_notRecordPointer_iff target changes,
      ?_, fun _ => r.registry_register_of_error, ?_, ?_⟩
  · intro kind record hTarget l
    subst hTarget
    rcases
        r.answer_register_pointer_cases kind record changes
      with
      ⟨text, hMalformed, hAnswer⟩ |
        ⟨field, hMalformed, hUnknown, hAnswer⟩ |
          ⟨entry, hMalformed, hUnknown, hAnswer⟩
    · simp [registered, l, hAnswer, hMalformed]
    · simp [registered, l, hAnswer, hMalformed, hUnknown]
    · simp [registered, l, hAnswer, hMalformed, hUnknown]
  · intro kind record entry hTarget hCached
    rw [hTarget, lookup_pointer_of_cached kind hCached]
    exact ⟨rfl, rfl⟩
  · intro hNone
    apply lookup_eq_register
    intro record hRecord
    rcases Target.record?_eq_some_iff.mp hRecord with
      ⟨kind, hTarget⟩
    exact hNone kind record hTarget

/-
  Of two unknown fields the first one counts, and neither
  the new table nor the failure reaches the entry.
-/
theorem register_fails_in_order_of_cached :
    let record : Record :=
      ⟨"user",
        ⟨"User", [⟨"id", none⟩, ⟨"name", some "column=n"⟩]⟩,
        none⟩
    let target : Target := .pointer .owned (.record record)
    let changes : List Customization :=
      [.table "people", .column "missing" "c",
        .column "other" "d"]
    let r := (empty.lookup target).registry
    let entry : Entry :=
      ⟨0, .ofFields "user" [("id", "id"), ("name", "n")]⟩
    empty.lookup target = empty.register target [] ∧
      r.cached record.key = some entry ∧
      (r.register target changes).answer =
        .error ⟨.unknownField "missing", some "User"⟩ ∧
      (r.register target changes).registry = r ∧
      (r.lookup target).answer = .ok entry := by
  intro record target changes r entry
  have hFirst :=
    (register_fails_in_order empty target []).2.2.2.2
      (fun _ other _ => cached_empty other.key)
  have hCached : r.cached record.key = some entry := by
    decide
  rcases register_fails_in_order r target changes with
    ⟨_, hPointer, hAtomic, hLookup, _⟩
  have hFailure :
      (r.register target changes).answer =
        .error ⟨.unknownField "missing", some "User"⟩ :=
    ((hPointer .owned record rfl).2.1 "missing").mpr
      ⟨by decide, by decide⟩
  exact
    ⟨hFirst, hCached, hFailure, hAtomic _ hFailure,
      (hLookup .owned record entry rfl hCached).1⟩

/-
  A malformed tag hides an unknown field, and two pointers
  hide both.
-/
example :
    let record : Record :=
      ⟨"user", ⟨"User", [⟨"id", some "column=a,b,c=d=e"⟩]⟩,
        none⟩
    let target : Target := .pointer .shared (.record record)
    let changes : List Customization :=
      [.column "missing" "c"]
    (empty.register target changes).answer =
        .error ⟨.invalidTag "b", some "User"⟩ ∧
      (empty.register (.pointer .counted target)
          changes).answer =
        .error ⟨.notRecordPointer, none⟩ :=
  ⟨rfl, rfl⟩

end Registry

end RecordQuery
