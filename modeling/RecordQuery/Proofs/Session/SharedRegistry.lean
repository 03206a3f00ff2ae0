import RecordQuery.Proofs.Registry.Registration
import RecordQuery.Proofs.Session.Building

/-
  What building a selection leaves of a shared registry.

  Key theorems include:
    * `RecordQuery.Selection.build_of_cached`
    * `RecordQuery.Selection.build_of_register`
    * `RecordQuery.Selection.build_of_register_error`
    * `RecordQuery.Selection.build_adds_own_entry_only`

  Building adds the entry of the record type if there is
  none yet, whether or not the statement can be rendered,
  and does nothing else to the registry.
-/

------------------------------------------------------------
-- One Build
------------------------------------------------------------

namespace RecordQuery

namespace Selection

variable (s : Selection)
variable {r : Registry}
variable {entry : Entry}

/- With an entry, that entry is all that is used. -/
theorem build_of_cached
    (hCached : r.cached s.record.key = some entry) :
    (s.build r).registry = r ∧
      (s.build r).answer =
        (s.compile entry.mapping).mapError
          Failure.ofFault := by
  have hLookup :
      r.lookup s.target =
        ⟨r, .ok entry, [.found s.record.layout.name]⟩ :=
    Registry.lookup_pointer_of_cached .borrowed hCached
  have hAnswer : (r.lookup s.target).answer = .ok entry := by
    rw [hLookup]
  refine ⟨?_, s.answer_build_of_lookup r hAnswer⟩
  rw [registry_build, hLookup]

/- Without one, the mapping is looked up by registering. -/
theorem lookup_target_of_not_cached
    (hNone : r.cached s.record.key = none) :
    r.lookup s.target = r.register s.target [] := by
  apply Registry.lookup_eq_register
  intro record hRecord
  cases hRecord
  exact hNone

/- The entry that was registered is used at once. -/
theorem build_of_register
    (hNone : r.cached s.record.key = none)
    (hEntry :
      (r.register s.target []).answer = .ok entry) :
    (s.build r).registry = (r.register s.target []).registry ∧
      (s.build r).answer =
        (s.compile entry.mapping).mapError
          Failure.ofFault := by
  have hLookup := s.lookup_target_of_not_cached hNone
  refine ⟨?_, s.answer_build_of_lookup r ?_⟩
  · rw [registry_build, hLookup]
  · rw [hLookup, hEntry]

/- What cannot be registered cannot be built. -/
theorem build_of_register_error
    {failure : Failure}
    (hNone : r.cached s.record.key = none)
    (hFailure :
      (r.register s.target []).answer = .error failure) :
    (s.build r).registry = r ∧
      (s.build r).answer = .error failure := by
  have hLookup := s.lookup_target_of_not_cached hNone
  constructor
  · rw [registry_build, hLookup]
    exact r.registry_register_of_error hFailure
  · rw [answer_build, hLookup, hFailure]
    rfl

/- The entry of the record type is the one registered. -/
theorem cached_build_of_register
    (hNone : r.cached s.record.key = none)
    (hEntry :
      (r.register s.target []).answer = .ok entry) :
    (s.build r).registry.cached s.record.key = some entry ∧
      (s.build r).registry.size = r.size + 1 := by
  rcases r.exists_record_of_register hEntry with
    ⟨record, hRecord, _, hNext, hStore⟩
  cases hRecord
  rw [(s.build_of_register hNone hEntry).1, hStore]
  constructor
  · rw [Registry.cached_store_self, ← hNext]
  · rw [Registry.size_store, hNone]
    rfl

/- Entries of other types are left alone. -/
theorem cached_build_of_ne
    (r : Registry)
    {other : String}
    (hOther : other ≠ s.record.key) :
    (s.build r).registry.cached other = r.cached other := by
  cases hCached : r.cached s.record.key with
  | some entry => rw [(s.build_of_cached hCached).1]
  | none =>
      cases hAnswer : (r.register s.target []).answer with
      | error failure =>
          rw [(s.build_of_register_error hCached hAnswer).1]
      | ok entry =>
          rcases r.exists_record_of_register hAnswer with
            ⟨record, hRecord, _, _, hStore⟩
          cases hRecord
          rw [(s.build_of_register hCached hAnswer).1, hStore,
            Registry.cached_store_of_ne r _ hOther]

end Selection

end RecordQuery

------------------------------------------------------------
-- Building Again
------------------------------------------------------------

namespace RecordQuery

namespace Selection

variable (s : Selection)
variable (r : Registry)

/- A second build finds what the first one left. -/
theorem build_build :
    (s.build (s.build r).registry).registry =
        (s.build r).registry ∧
      (s.build (s.build r).registry).answer =
        (s.build r).answer := by
  cases hCached : r.cached s.record.key with
  | some entry =>
      rw [(s.build_of_cached hCached).1]
      exact ⟨(s.build_of_cached hCached).1, rfl⟩
  | none =>
      cases hAnswer : (r.register s.target []).answer with
      | error failure =>
          have hFirst :=
            s.build_of_register_error hCached hAnswer
          rw [hFirst.1]
          exact ⟨hFirst.1, rfl⟩
      | ok entry =>
          have hFirst := s.build_of_register hCached hAnswer
          have hSecond :=
            s.build_of_cached
              (s.cached_build_of_register hCached hAnswer).1
          exact
            ⟨hSecond.1, hSecond.2.trans hFirst.2.symm⟩

end Selection

end RecordQuery

------------------------------------------------------------
-- All Builds
------------------------------------------------------------

namespace RecordQuery

namespace Selection

/-
  Building a selection of a record type that has an entry
  leaves the registry as it is and renders with that entry,
  whatever instance the selection knows the type through,
  and so it does with an entry registered later on.  Without
  an entry it adds exactly the one that registering the
  instance gives, also if rendering then fails, or it fails
  as the registration does and leaves the registry as it
  is.  Entries of other types are never touched, and a
  second build answers and leaves what the first one did.
-/
theorem build_adds_own_entry_only
    (s : Selection)
    (r : Registry) :
    let key := s.record.key
    let built := s.build r
    let plain := r.register s.target []
    let rendered (entry : Entry) :=
      (s.compile entry.mapping).mapError Failure.ofFault
    (∀ entry,
        r.cached key = some entry →
          built.registry = r ∧
            built.answer = rendered entry ∧
            ∀ record : Record,
              record.key = key →
                ({ s with record := record }.build r).answer =
                  rendered entry) ∧
      (∀ target changes record entry,
        target.record? = some record →
          record.key = key →
            (r.register target changes).answer = .ok entry →
              let later :=
                (r.register target changes).registry
              (s.build later).registry = later ∧
                (s.build later).answer = rendered entry) ∧
      (r.cached key = none →
        ∀ entry,
          plain.answer = .ok entry →
            built.registry = plain.registry ∧
              built.registry.cached key = some entry ∧
              built.registry.size = r.size + 1 ∧
              built.answer = rendered entry) ∧
      (r.cached key = none →
        ∀ failure,
          plain.answer = .error failure →
            built.registry = r ∧
              built.answer = .error failure) ∧
      (∀ other,
        other ≠ key →
          built.registry.cached other = r.cached other) ∧
      (s.build built.registry).registry = built.registry ∧
      (s.build built.registry).answer = built.answer := by
  intro key built plain rendered
  refine
    ⟨?_, ?_, ?_, fun hNone _ => s.build_of_register_error hNone,
      fun _ => s.cached_build_of_ne r, s.build_build r⟩
  · intro entry hCached
    have hBuilt := s.build_of_cached hCached
    refine ⟨hBuilt.1, hBuilt.2, ?_⟩
    intro record hKey
    have hOwn : r.cached record.key = some entry :=
      hKey ▸ hCached
    exact
      (build_of_cached { s with record := record } hOwn).2
  · intro target changes record entry hRecord hKey hEntry
      later
    rcases r.exists_record_of_register hEntry with
      ⟨found, hFound, _, hNext, hStore⟩
    have hSame : found = record :=
      Option.some.inj (hFound.symm.trans hRecord)
    subst hSame
    apply s.build_of_cached
    change later.cached key = some entry
    unfold later
    rw [hStore, ← hKey, Registry.cached_store_self, ← hNext]
  · intro hNone entry hEntry
    have hBuilt := s.build_of_register hNone hEntry
    have hCached := s.cached_build_of_register hNone hEntry
    exact ⟨hBuilt.1, hCached.1, hCached.2, hBuilt.2⟩

/-
  The first selection fails at an unknown field and leaves
  an entry, which is registered anew for the third build.  A
  selection of another type cannot be registered.
-/
theorem build_adds_own_entry_only_before_fault :
    let record : Record :=
      ⟨"user", ⟨"User", [⟨"id", none⟩]⟩, some "own"⟩
    let bad : Record :=
      ⟨"bad", ⟨"Bad", [⟨"id", some "column"⟩]⟩, none⟩
    let target : Target := .pointer .shared (.record record)
    let s : Selection :=
      ⟨⟨0, .generic⟩, record, none,
        some (.column "missing")⟩
    let all : Selection := { s with condition := none }
    let entry : Entry := ⟨0, .ofFields "own" [("id", "id")]⟩
    let left := (s.build .empty).registry
    let changed :=
      (left.register target [.table "people"]).registry
    let refused := { s with record := bad }.build left
    (s.build .empty).answer =
        .error ⟨.unknownField "missing", none⟩ ∧
      left.cached "user" = some entry ∧
      left.size = 1 ∧
      (s.build left).answer =
        .error ⟨.unknownField "missing", none⟩ ∧
      (s.build left).registry = left ∧
      (all.build changed).registry = changed ∧
      (all.build changed).answer.toOption =
        some ⟨"SELECT * FROM `people`;", []⟩ ∧
      refused.answer =
        .error ⟨.invalidTag "column", some "Bad"⟩ ∧
      refused.registry = left ∧
      (s.build left).registry.cached "bad" =
        left.cached "bad" := by
  intro record bad target s all entry left changed refused
  let renamed : Entry :=
    ⟨1, .ofFields "people" [("id", "id")]⟩
  rcases build_adds_own_entry_only s .empty with
    ⟨_, _, hAdds, _, _, _, hAgain⟩
  rcases
      hAdds (Registry.cached_empty "user") entry rfl with
    ⟨_, hCached, hSize, hAnswer⟩
  rcases build_adds_own_entry_only s left with
    ⟨hKeeps, _, _, _, hOthers, _, _⟩
  rcases
      (build_adds_own_entry_only all left).2.1 target
        [.table "people"] record renamed rfl rfl rfl with
    ⟨hLater, hRendered⟩
  rcases
      (build_adds_own_entry_only { s with record := bad }
          left).2.2.2.1 (by decide)
        ⟨.invalidTag "column", some "Bad"⟩ rfl with
    ⟨hLeft, hRefused⟩
  have hFails :
      (s.build .empty).answer =
        .error ⟨.unknownField "missing", none⟩ := by
    rw [hAnswer]
    rfl
  refine
    ⟨hFails, hCached, hSize, hAgain.trans hFails,
      (hKeeps entry hCached).1, hLater, ?_, hRefused, hLeft,
      hOthers "bad" (by decide)⟩
  rw [hRendered]
  decide

end Selection

end RecordQuery
