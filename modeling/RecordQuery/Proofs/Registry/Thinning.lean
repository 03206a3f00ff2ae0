import RecordQuery.Proofs.Registry.History

/-
  A registry beside one that got only the requests about one
  record type.

  Key definitions include:
    * `RecordQuery.Registry.Request.type?`
    * `RecordQuery.Renumbering`
    * `RecordQuery.Registry.Thinned`
    * `RecordQuery.Registry.Alike`

  Key theorems include:
    * `RecordQuery.Registry.cached_after_foreign`
    * `RecordQuery.Registry.Thinned.after_foreign`
    * `RecordQuery.Registry.Thinned.register_alike`
    * `RecordQuery.Registry.Thinned.lookup_alike`
    * `RecordQuery.Registry.Alike.exists_renumbering`

  The entry of that type is the same in both, up to its
  number.  Other requests only use up numbers, so that the
  numbers of the one registry are those of the other in the
  same order.
-/

------------------------------------------------------------
-- Types Of Requests
------------------------------------------------------------

namespace RecordQuery

/-
  The key of the record type within a target, behind any
  number of pointers.
-/
def Target.key? : Target → Option String
| .record r => some r.key
| .pointer _ pointee => pointee.key?
| .map => none
| .sequence => none
| .scalar => none

/- The record of a target is of the type of the target. -/
theorem Target.key?_of_record?
    {target : Target}
    {record : Record}
    (hRecord : target.record? = some record) :
    target.key? = some record.key := by
  rcases Target.record?_eq_some_iff.mp hRecord with
    ⟨kind, rfl⟩
  rfl

namespace Registry

/-
  The record type that a request is about, whether or not
  its target can be registered.
-/
def Request.type? : Request → Option String
| .register target _ => target.key?
| .lookup target => target.key?
| .cached key => some key
| .build selection => some selection.record.key

/- What a request can store is of the type it is about. -/
theorem Request.type?_of_key?
    {request : Request}
    {key : String}
    (hKey : request.key? = some key) :
    request.type? = some key := by
  have hTarget {target : Target}
      (hMap : target.record?.map Record.key = some key) :
      target.key? = some key := by
    rcases Option.map_eq_some_iff.mp hMap with
      ⟨record, hRecord, rfl⟩
    exact Target.key?_of_record? hRecord
  cases request with
  | register target changes => exact hTarget hKey
  | lookup target => exact hTarget hKey
  | cached other => exact hKey
  | build selection => exact hKey

variable (r : Registry)

/- A request leaves the entries of other types alone. -/
theorem cached_after_foreign
    {request : Request}
    {key : String}
    (hForeign : request.type? ≠ some key) :
    (r.after request).cached key = r.cached key := by
  cases r.effect request with
  | nothing hShown hAfter => rw [hAfter]
  | found hKey hAim hCached hShown hAfter => rw [hAfter]
  | @stored own mapping hKey hAim hShown hAfter =>
      have hNe : key ≠ own := by
        intro hEq
        apply hForeign
        rw [Request.type?_of_key? hKey, hEq]
      rw [hAfter, cached_store_of_ne r mapping hNe]

/- No number is used twice. -/
theorem stored_le_after
    (request : Request) :
    r.stored ≤ (r.after request).stored := by
  cases r.effect request with
  | nothing hShown hAfter =>
      exact Nat.le_of_eq (congrArg Registry.stored hAfter.symm)
  | found hKey hAim hCached hShown hAfter =>
      exact Nat.le_of_eq (congrArg Registry.stored hAfter.symm)
  | stored hKey hAim hShown hAfter =>
      rw [hAfter]
      exact Nat.le_succ _

end Registry

end RecordQuery

------------------------------------------------------------
-- Renumberings
------------------------------------------------------------

namespace RecordQuery

/- Other serial numbers in the same order. -/
structure Renumbering where
  apply : Nat → Nat
  apply_lt_apply :
    ∀ {a b : Nat}, a < b → apply a < apply b

namespace Renumbering

/- Every number stays as it is. -/
def identity : Renumbering where
  apply a := a
  apply_lt_apply hLt := hLt

/- Numbers from `n` on become those from `m` on. -/
def extend
    (f : Renumbering)
    (n m : Nat)
    (hBelow : ∀ a, a < n → f.apply a < m) :
    Renumbering where
  apply a := if a < n then f.apply a else m + (a - n)
  apply_lt_apply := by
    intro a b hLt
    by_cases hRight : b < n
    · have hLeft : a < n := Nat.lt_trans hLt hRight
      rw [if_pos hLeft, if_pos hRight]
      exact f.apply_lt_apply hLt
    · rw [if_neg hRight]
      by_cases hLeft : a < n
      · rw [if_pos hLeft]
        have hSmall := hBelow a hLeft
        omega
      · rw [if_neg hLeft]
        omega

variable (f : Renumbering)
variable {n m : Nat}
variable (hBelow : ∀ a, a < n → f.apply a < m)

/- Lower numbers are renamed as before. -/
theorem extend_of_lt
    {a : Nat}
    (hLt : a < n) :
    (f.extend n m hBelow).apply a = f.apply a :=
  if_pos hLt

/- The new number gets the new name. -/
theorem extend_self :
    (f.extend n m hBelow).apply n = m := by
  change (if n < n then f.apply n else m + (n - n)) = m
  rw [if_neg (Nat.lt_irrefl n), Nat.sub_self]
  rfl

end Renumbering

/- An entry under another number. -/
def Entry.renumber
    (f : Renumbering)
    (entry : Entry) :
    Entry :=
  { entry with serial := f.apply entry.serial }

end RecordQuery

------------------------------------------------------------
-- Thinned Registries
------------------------------------------------------------

namespace RecordQuery

namespace Registry

/-
  In both registries the type has the same mapping or none,
  and the numbers used up by the first one stand for numbers
  used up by the second.
-/
structure Thinned
    (key : String)
    (f : Renumbering)
    (q r : Registry) :
    Prop where
  cached :
    r.cached key = (q.cached key).map (Entry.renumber f)
  serial_lt :
    ∀ entry,
      q.cached key = some entry → entry.serial < q.stored
  stored_lt : ∀ a, a < q.stored → f.apply a < r.stored

/- Empty registries are alike. -/
theorem thinned_empty
    (key : String)
    (f : Renumbering) :
    Thinned key f empty empty where
  cached := by
    rw [cached_empty]
    rfl
  serial_lt := by
    intro entry hCached
    rw [cached_empty] at hCached
    cases hCached
  stored_lt a hLt := absurd hLt (Nat.not_lt_zero a)

variable {key : String}
variable {f : Renumbering}
variable {q r : Registry}

/-
  A request about another type, made only of the second
  registry, does at most use up a number.
-/
theorem Thinned.after_foreign
    (hThinned : Thinned key f q r)
    {request : Request}
    (hForeign : request.type? ≠ some key) :
    Thinned key f q (r.after request) := by
  refine ⟨?_, hThinned.serial_lt, ?_⟩
  · rw [r.cached_after_foreign hForeign]
    exact hThinned.cached
  · intro a hLt
    exact
      Nat.lt_of_lt_of_le (hThinned.stored_lt a hLt)
        (r.stored_le_after request)

/-
  If both store a mapping, the new number of the one stands
  for that of the other.
-/
theorem Thinned.store
    (hThinned : Thinned key f q r)
    (mapping : Mapping) :
    Thinned key (f.extend q.stored r.stored hThinned.stored_lt)
      (q.store key mapping) (r.store key mapping) := by
  refine ⟨?_, ?_, ?_⟩
  · rw [cached_store_self, cached_store_self]
    change _ = some (Entry.mk _ _)
    rw [nextEntry, nextEntry, Renumbering.extend_self]
  · intro entry hCached
    rw [cached_store_self] at hCached
    cases hCached
    exact Nat.lt_succ_self _
  · intro a hLt
    change a < q.stored + 1 at hLt
    change _ < r.stored + 1
    by_cases hOld : a < q.stored
    · rw [Renumbering.extend_of_lt f _ hOld]
      exact Nat.lt_succ_of_lt (hThinned.stored_lt a hOld)
    · have hEq : a = q.stored := by omega
      rw [hEq, Renumbering.extend_self]
      exact Nat.lt_succ_self _

end Registry

end RecordQuery

------------------------------------------------------------
-- Requests Made Of Both
------------------------------------------------------------

namespace RecordQuery

namespace Registry

/-
  Outcomes of asking both registries for the entry of the
  type.
-/
inductive Alike
    (key : String)
    (f : Renumbering)
    (q r : Registry) :
    Outcome Entry → Outcome Entry → Prop where
  | refused
      (failure : Failure)
      (events : List Event) :
      Alike key f q r ⟨q, .error failure, events⟩
        ⟨r, .error failure, events⟩
  | stored
      (mapping : Mapping)
      (events : List Event) :
      Alike key f q r
        ⟨q.store key mapping, .ok (q.nextEntry mapping),
          events⟩
        ⟨r.store key mapping, .ok (r.nextEntry mapping),
          events⟩
  | found
      {entry : Entry}
      (hCached : q.cached key = some entry)
      (events : List Event) :
      Alike key f q r ⟨q, .ok entry, events⟩
        ⟨r, .ok (entry.renumber f), events⟩

variable {key : String}
variable {f : Renumbering}
variable {q r : Registry}

/- Registrations do not depend on what is there. -/
theorem register_alike
    (f : Renumbering)
    (q r : Registry)
    {target : Target}
    (hKey : target.key? = some key)
    (changes : List Customization) :
    Alike key f q r (q.register target changes)
      (r.register target changes) := by
  rcases q.register_cases target changes with
    ⟨hNone, hEq⟩ | ⟨record, fault, hRecord, hMapping, hEq⟩ |
      ⟨record, mapping, hRecord, hMapping, hEq⟩
  · rw [hEq, r.register_of_not_record changes hNone]
    exact .refused _ _
  · rw [hEq, r.register_of_mapping_error hRecord hMapping]
    exact .refused _ _
  · have hOwn : record.key = key := by
      rw [Target.key?_of_record? hRecord] at hKey
      exact Option.some.inj hKey
    rw [hEq, r.register_of_mapping hRecord hMapping, hOwn]
    exact .stored mapping _

/- Lookups depend on the entry of the type alone. -/
theorem Thinned.lookup_alike
    (hThinned : Thinned key f q r)
    {target : Target}
    (hKey : target.key? = some key) :
    Alike key f q r (q.lookup target) (r.lookup target) := by
  have hOwn {record : Record}
      (hRecord : target.record? = some record) :
      record.key = key := by
    rw [Target.key?_of_record? hRecord] at hKey
    exact Option.some.inj hKey
  have hCached := hThinned.cached
  rcases q.lookup_cases target with
    ⟨record, entry, hRecord, hFound, hEq⟩ | ⟨hNone, hEq⟩
  · rcases Target.record?_eq_some_iff.mp hRecord with
      ⟨kind, rfl⟩
    have hSame := hOwn hRecord
    subst hSame
    rw [hFound] at hCached
    rw [hEq, lookup_pointer_of_cached kind hCached]
    exact .found hFound _
  · have hOther :
        ∀ record,
          target.record? = some record →
            r.cached record.key = none := by
      intro record hRecord
      have hMissing := hNone record hRecord
      rw [hOwn hRecord] at hMissing ⊢
      rw [hCached, hMissing]
      rfl
    rw [hEq, lookup_eq_register hOther]
    exact register_alike f q r hKey []

/-
  Outcomes are the same up to numbers, of which those that
  were used up before keep their names, and the registries
  they leave are alike again.
-/
structure Renamed
    (key : String)
    (f g : Renumbering)
    (q : Registry)
    (o p : Outcome Entry) :
    Prop where
  apply_eq : ∀ a, a < q.stored → g.apply a = f.apply a
  thinned : Thinned key g o.registry p.registry
  stored_le : q.stored ≤ o.registry.stored
  answer : p.answer = o.answer.map (Entry.renumber g)
  serial_lt :
    ∀ entry,
      o.answer = .ok entry →
        entry.serial < o.registry.stored
  events : p.events = o.events

/- Only a stored mapping needs a new name. -/
theorem Alike.exists_renumbering
    {o p : Outcome Entry}
    (hAlike : Alike key f q r o p)
    (hThinned : Thinned key f q r) :
    ∃ g, Renamed key f g q o p := by
  cases hAlike with
  | refused failure events =>
      refine
        ⟨f, fun _ _ => rfl, hThinned, Nat.le_refl _, rfl, ?_,
          rfl⟩
      intro entry hEntry
      cases hEntry
  | stored mapping events =>
      let g := f.extend q.stored r.stored hThinned.stored_lt
      refine
        ⟨g, ?_, hThinned.store mapping, Nat.le_succ _, ?_, ?_,
          rfl⟩
      · intro a hLt
        exact f.extend_of_lt _ hLt
      · have hName : g.apply q.stored = r.stored :=
          f.extend_self _
        change _ = Except.ok (Entry.mk (g.apply q.stored) _)
        rw [hName]
        rfl
      · intro entry hEntry
        cases hEntry
        exact Nat.lt_succ_self _
  | found hCached events =>
      refine
        ⟨f, fun _ _ => rfl, hThinned, Nat.le_refl _, rfl, ?_,
          rfl⟩
      intro entry hEntry
      cases hEntry
      exact hThinned.serial_lt _ hCached

end Registry

end RecordQuery
