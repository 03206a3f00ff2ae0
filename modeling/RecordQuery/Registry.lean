import RecordQuery.Log
import RecordQuery.Mapping.Derivation

/-
  Registries of the mappings of record types.

  Key definitions include:
    * `RecordQuery.Registry`
    * `RecordQuery.Registry.cached`
    * `RecordQuery.Registry.register`
    * `RecordQuery.Registry.lookup`

  Key theorems include:
    * `RecordQuery.Registry.cached_store_self`
    * `RecordQuery.Registry.cached_store_of_ne`
    * `RecordQuery.Registry.size_store`

  A registry holds at most one entry per record type.  Each
  stored mapping gets a serial number of its own, which is
  its identity within the registry: two entries of equal
  content differ in it.  A registration that fails leaves
  the registry as it was.
-/

------------------------------------------------------------
-- Registries
------------------------------------------------------------

namespace RecordQuery

/- A stored mapping and its serial number. -/
structure Entry where
  serial : Nat
  mapping : Mapping
  deriving DecidableEq

/-
  The entries by the keys of their record types, and the
  number of mappings stored so far.
-/
structure Registry where
  entries : Std.ExtTreeMap String Entry
  stored : Nat
  deriving DecidableEq

/- What a step on a registry leaves, answers and logs. -/
structure Outcome (α : Type) where
  registry : Registry
  answer : Except Failure α
  events : List Event

namespace Registry

/- A registry without entries. -/
def empty : Registry where
  entries := ∅
  stored := 0

/- The entry of a record type, if there is one. -/
def cached
    (r : Registry)
    (key : String) :
    Option Entry :=
  r.entries[key]?

/- The number of entries. -/
def size
    (r : Registry) :
    Nat :=
  r.entries.size

/- The entry that the next stored mapping becomes. -/
def nextEntry
    (r : Registry)
    (mapping : Mapping) :
    Entry :=
  ⟨r.stored, mapping⟩

/- Store a mapping, in place of an earlier one. -/
def store
    (r : Registry)
    (key : String)
    (mapping : Mapping) :
    Registry where
  entries := r.entries.insert key (r.nextEntry mapping)
  stored := r.stored + 1

/- An empty registry has no entry for any type. -/
theorem cached_empty
    (key : String) :
    empty.cached key = none := by
  simp [empty, cached]

/- A stored mapping is the entry of its type. -/
theorem cached_store_self
    (r : Registry)
    (key : String)
    (mapping : Mapping) :
    (r.store key mapping).cached key =
      some (r.nextEntry mapping) := by
  simp [store, cached]

/- Storing keeps the entries of all other types. -/
theorem cached_store_of_ne
    (r : Registry)
    {key other : String}
    (mapping : Mapping)
    (hNe : other ≠ key) :
    (r.store key mapping).cached other =
      r.cached other := by
  simp [store, cached, Std.ExtTreeMap.getElem?_insert,
    Ne.symm hNe]

/- Only a type without an entry adds to the size. -/
theorem size_store
    (r : Registry)
    (key : String)
    (mapping : Mapping) :
    (r.store key mapping).size =
      if (r.cached key).isSome then
        r.size
      else
        r.size + 1 := by
  simp [store, size, cached, Std.ExtTreeMap.size_insert,
    Std.ExtTreeMap.isSome_getElem?_eq_contains]

end Registry

end RecordQuery

------------------------------------------------------------
-- Registration And Lookup
------------------------------------------------------------

namespace RecordQuery

namespace Registry

/- Register a record with customizations. -/
def registerRecord
    (r : Registry)
    (record : Record)
    (changes : List Customization) :
    Outcome Entry :=
  match record.mapping changes with
  | .error fault =>
      let failure : Failure :=
        ⟨fault, some record.layout.name⟩
      { registry := r
        answer := .error failure
        events := [.failed failure] }
  | .ok mapping =>
      { registry := r.store record.key mapping
        answer := .ok (r.nextEntry mapping)
        events :=
          [.registered record.layout.name mapping.table
            mapping.columns.size] }

/-
  Register the record behind a target, whether or not its
  type has an entry already.
-/
def register
    (r : Registry)
    (target : Target)
    (changes : List Customization) :
    Outcome Entry :=
  match target.record? with
  | none =>
      { registry := r
        answer := .error (.ofFault .notRecordPointer)
        events := [.rejected] }
  | some record => r.registerRecord record changes

/-
  The entry of the record type behind a target, which is
  registered without customizations if it has none.
-/
def lookup
    (r : Registry)
    (target : Target) :
    Outcome Entry :=
  match target.record? with
  | none => r.register target []
  | some record =>
      match r.cached record.key with
      | none => r.register target []
      | some entry =>
          { registry := r
            answer := .ok entry
            events := [.found record.layout.name] }

end Registry

end RecordQuery
